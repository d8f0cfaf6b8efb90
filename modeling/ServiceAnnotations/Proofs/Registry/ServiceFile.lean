import Mathlib.Data.List.DropRight
import ServiceAnnotations.Proofs.Text.ByteMap
import ServiceAnnotations.Proofs.Text.Utf8
import ServiceAnnotations.Registry.ServiceFile

/-! # Names that service files can list

A name comes back from a service file just when it looks like something that a service file can list:
text without line ends, `#`, or white space around it. -/
namespace ServiceAnnotations
namespace Text

variable {α : Type} {p : α → Bool} {xs : List α}

theorem trimBy_eq_rdropWhile (p : α → Bool) (xs : List α) :
    trimBy p xs = (xs.dropWhile p).rdropWhile p := rfl

theorem mem_of_mem_trimBy {x : α} (hx : x ∈ trimBy p xs) : x ∈ xs :=
  (List.dropWhile_suffix p).mem ((List.rdropWhile_prefix p _).mem hx)

theorem trimBy_trimBy (p : α → Bool) (xs : List α) : trimBy p (trimBy p xs) = trimBy p xs := by
  simp only [trimBy_eq_rdropWhile]
  -- The first item of what is left was the first item before the end was trimmed.
  have hhead : ((xs.dropWhile p).rdropWhile p).dropWhile p = (xs.dropWhile p).rdropWhile p := by
    rw [List.dropWhile_eq_self_iff]
    intro hpos
    have hpre := List.rdropWhile_prefix p (xs.dropWhile p)
    have hself := List.dropWhile_eq_self_iff.mp (List.dropWhile_idempotent (p := p) xs)
    rw [hpre.getElem hpos]
    exact hself (hpos.trans_le hpre.length_le)
  rw [hhead, List.rdropWhile_idempotent]

theorem trimBy_map {β : Type} (f : β → α) (p : α → Bool) (ys : List β) :
    trimBy p (ys.map f) = (trimBy (p ∘ f) ys).map f := by
  simp [trimBy, List.dropWhile_map, ← List.map_reverse]

theorem trimBytes_ofChars (cs : List Char) : trimBytes (Bytes.ofChars cs) = Bytes.ofChars (trim cs) := by
  rw [trimBytes, Utf8.glyphs_ofChars, trimBy_map, List.flatMap_map]
  rfl

end Text

namespace Registry
open Text

/-- Whether a service file can list a name. -/
structure Listable (n : Bytes) : Prop where
  nonempty : n ≠ []
  valid : Utf8.isValid n = true
  /-- There is no `#`, carriage return or line feed in it. -/
  clean : 0x23 ∉ n ∧ 0x0d ∉ n ∧ 0x0a ∉ n
  /-- There is no white space around it. -/
  trimmed : trimBytes n = n

instance (n : Bytes) : Decidable (Listable n) :=
  decidable_of_iff (n ≠ [] ∧ Utf8.isValid n = true ∧ (0x23 ∉ n ∧ 0x0d ∉ n ∧ 0x0a ∉ n) ∧ trimBytes n = n)
    ⟨fun ⟨h₁, h₂, h₃, h₄⟩ => ⟨h₁, h₂, h₃, h₄⟩, fun ⟨h₁, h₂, h₃, h₄⟩ => ⟨h₁, h₂, h₃, h₄⟩⟩

structure ListableText (cs : List Char) : Prop where
  nonempty : cs ≠ []
  clean : '#' ∉ cs ∧ '\r' ∉ cs ∧ '\n' ∉ cs
  trimmed : trim cs = cs

theorem listable_ofChars_iff {cs : List Char} : Listable (Bytes.ofChars cs) ↔ ListableText cs := by
  have hnil : Bytes.ofChars cs = [] ↔ cs = [] :=
    ⟨fun h => Utf8.ofChars_injective h, fun h => h ▸ rfl⟩
  have hhash : 0x23 ∈ Bytes.ofChars cs ↔ '#' ∈ cs := Utf8.mem_ofChars_iff (c := '#') (by decide)
  have hcr : 0x0d ∈ Bytes.ofChars cs ↔ '\r' ∈ cs := Utf8.mem_ofChars_iff (c := '\r') (by decide)
  have hlf : 0x0a ∈ Bytes.ofChars cs ↔ '\n' ∈ cs := Utf8.mem_ofChars_iff (c := '\n') (by decide)
  constructor
  · rintro ⟨hne, -, hclean, htrim⟩
    rw [hhash, hcr, hlf] at hclean
    exact ⟨mt hnil.mpr hne, hclean, Utf8.ofChars_injective (trimBytes_ofChars cs ▸ htrim)⟩
  · rintro ⟨hne, hclean, htrim⟩
    refine ⟨mt hnil.mp hne, Utf8.isValid_iff.mpr ⟨cs, rfl⟩, ?_, ?_⟩
    · rwa [hhash, hcr, hlf]
    · rw [trimBytes_ofChars, htrim]

theorem Listable.exists_text {n : Bytes} (hn : Listable n) :
    ∃ cs, n = Bytes.ofChars cs ∧ ListableText cs := by
  obtain ⟨cs, rfl⟩ := Utf8.isValid_iff.mp hn.valid
  exact ⟨cs, rfl, listable_ofChars_iff.mp hn⟩

theorem unifyLineEnds_of_notMem {cs : List Char} (h : '\r' ∉ cs) : unifyLineEnds cs = cs := by
  fun_induction unifyLineEnds cs <;> simp_all

theorem notMem_unifyLineEnds (cs : List Char) : '\r' ∉ unifyLineEnds cs := by
  fun_induction unifyLineEnds cs with
  | case1 => simp
  | case2 cs ih | case3 cs hlf ih => simpa using ih
  | case4 c cs hcr hc ih => simpa [eq_comm] using ⟨hc, ih⟩

theorem splitLines_of_notMem {cs : List Char} (h : '\n' ∉ cs) : splitLines cs = [cs] := by
  induction cs with
  | nil => rfl
  | cons c cs ih =>
    rw [List.mem_cons, not_or] at h
    simp [splitLines, Ne.symm h.1, ih h.2]

theorem splitLines_ne_nil (cs : List Char) : splitLines cs ≠ [] := by
  fun_induction splitLines cs <;> simp

theorem splitLines_append (cs ds : List Char) :
    splitLines (cs ++ '\n' :: ds) = splitLines cs ++ splitLines ds := by
  induction cs with
  | nil => simp [splitLines]
  | cons c cs ih =>
    by_cases hc : c = '\n'
    · simp [splitLines, hc, ih]
    · obtain ⟨line, lines, hcs⟩ := List.exists_cons_of_ne_nil (splitLines_ne_nil cs)
      simp [splitLines, hc, ih, hcs]

theorem mem_of_mem_splitLines {cs line : List Char} (hline : line ∈ splitLines cs) {c : Char}
    (hc : c ∈ line) : c ∈ cs ∧ c ≠ '\n' := by
  induction cs generalizing line with
  | nil =>
    obtain rfl : line = [] := by simpa [splitLines] using hline
    simp at hc
  | cons d cs ih =>
    obtain ⟨first, lines, hcs⟩ := List.exists_cons_of_ne_nil (splitLines_ne_nil cs)
    by_cases hd : d = '\n'
    · simp only [splitLines, hd, if_true, List.mem_cons] at hline
      rcases hline with rfl | hline
      · simp at hc
      · exact ⟨List.mem_cons_of_mem _ (ih hline hc).1, (ih hline hc).2⟩
    · simp only [splitLines, hd, if_false, hcs, List.mem_cons] at hline ih
      rcases hline with rfl | hline
      · rcases List.mem_cons.mp hc with rfl | hc
        · exact ⟨List.mem_cons_self, hd⟩
        · exact ⟨List.mem_cons_of_mem _ (ih (.inl rfl) hc).1, (ih (.inl rfl) hc).2⟩
      · exact ⟨List.mem_cons_of_mem _ (ih (.inr hline) hc).1, (ih (.inr hline) hc).2⟩

theorem listableText_of_mem_namesOfText {cs n : List Char} (hn : n ∈ namesOfText cs) :
    ListableText n := by
  simp only [namesOfText, List.mem_filter, List.mem_map, decide_eq_true_eq] at hn
  obtain ⟨⟨line, hline, rfl⟩, hne⟩ := hn
  have hmem : ∀ {c}, c ∈ nameOfLine line → c ∈ line ∧ c ≠ '#' := by
    intro c hc
    have hc' : c ∈ line.takeWhile (· != '#') := mem_of_mem_trimBy hc
    exact ⟨(List.takeWhile_prefix _).mem hc', by simpa using List.mem_takeWhile_imp hc'⟩
  refine ⟨hne, ⟨fun h => (hmem h).2 rfl, fun h => ?_, fun h => ?_⟩, trimBy_trimBy _ _⟩
  · exact notMem_unifyLineEnds cs (mem_of_mem_splitLines hline (hmem h).1).1
  · exact (mem_of_mem_splitLines hline (hmem h).1).2 rfl

theorem nameOfLine_of_listableText {cs : List Char} (h : ListableText cs) : nameOfLine cs = cs := by
  have hhash : cs.takeWhile (· != '#') = cs := by
    rw [List.takeWhile_eq_self_iff]
    intro c hc
    simpa using fun hc' : c = '#' => h.clean.1 (hc' ▸ hc)
  rw [nameOfLine, hhash, h.trimmed]

def namesOfLines (lines : List (List Char)) : List (List Char) := (lines.map nameOfLine).filter (· ≠ [])

theorem namesOfLines_append (lines lines' : List (List Char)) :
    namesOfLines (lines ++ lines') = namesOfLines lines ++ namesOfLines lines' := by
  rw [namesOfLines, List.map_append, List.filter_append]
  rfl

theorem namesOfLines_cons_congr {lines lines' : List (List Char)} (line : List Char)
    (h : namesOfLines lines = namesOfLines lines') : namesOfLines (line :: lines) = namesOfLines (line :: lines') := by
  rw [← List.singleton_append, namesOfLines_append, h, ← namesOfLines_append, List.singleton_append]

def asLineFeed (c : Char) : Char := if c = '\r' then '\n' else c

/-- If the two characters of a line end are read one by one, there is just a blank line more. -/
theorem splitLines_unifyLineEnds (cs : List Char) :
    ∃ line lines lines', splitLines (unifyLineEnds cs) = line :: lines ∧
      splitLines (cs.map asLineFeed) = line :: lines' ∧ namesOfLines lines = namesOfLines lines' := by
  fun_induction unifyLineEnds cs with
  | case1 => exact ⟨[], [], [], rfl, rfl, rfl⟩
  | case2 cs ih =>
    obtain ⟨line, lines, lines', hunified, hmapped, hnames⟩ := ih
    refine ⟨[], line :: lines, [] :: line :: lines', ?_, ?_, ?_⟩
    · rw [splitLines, if_pos rfl, hunified]
    · simp [asLineFeed, splitLines, hmapped]
    · exact namesOfLines_cons_congr line hnames
  | case3 cs hlf ih =>
    obtain ⟨line, lines, lines', hunified, hmapped, hnames⟩ := ih
    refine ⟨[], line :: lines, line :: lines', ?_, ?_, namesOfLines_cons_congr line hnames⟩
    · rw [splitLines, if_pos rfl, hunified]
    · simp [asLineFeed, splitLines, hmapped]
  | case4 c cs hcrlf hcr ih =>
    obtain ⟨line, lines, lines', hunified, hmapped, hnames⟩ := ih
    have hc : asLineFeed c = c := if_neg hcr
    by_cases hlf : c = '\n'
    · refine ⟨[], line :: lines, line :: lines', ?_, ?_, namesOfLines_cons_congr line hnames⟩
      · rw [splitLines, if_pos hlf, hunified]
      · rw [List.map_cons, hc, splitLines, if_pos hlf, hmapped]
    · refine ⟨c :: line, lines, lines', ?_, ?_, hnames⟩
      · rw [splitLines, if_neg hlf, hunified]
      · rw [List.map_cons, hc, splitLines, if_neg hlf, hmapped]

theorem namesOfText_eq (cs : List Char) : namesOfText cs = namesOfLines (splitLines (cs.map asLineFeed)) := by
  obtain ⟨line, lines, lines', hunified, hmapped, hnames⟩ := splitLines_unifyLineEnds cs
  rw [hmapped, namesOfText, hunified]
  exact namesOfLines_cons_congr line hnames

/-- What stands before a carriage return or a line feed is read on its own, and so is what stands behind it, even
if the character is half a line end. -/
theorem namesOfText_append {c : Char} (hc : c = '\r' ∨ c = '\n') (cs ds : List Char) :
    namesOfText (cs ++ c :: ds) = namesOfText cs ++ namesOfText ds := by
  have hlf : asLineFeed c = '\n' := by rcases hc with rfl | rfl <;> rfl
  rw [namesOfText_eq, namesOfText_eq, namesOfText_eq, List.map_append, List.map_cons, hlf, splitLines_append,
    namesOfLines_append]

theorem namesOfText_of_listableText {cs : List Char} (h : ListableText cs) : namesOfText cs = [cs] := by
  rw [namesOfText, unifyLineEnds_of_notMem h.clean.2.1, splitLines_of_notMem h.clean.2.2]
  simp [nameOfLine_of_listableText h, h.nonempty]

/-- Texts on lines of their own are read one after another. -/
theorem namesOfText_lines (texts : List (List Char)) :
    namesOfText (texts.flatMap (· ++ ['\n'])) = texts.flatMap namesOfText := by
  induction texts with
  | nil => rfl
  | cons text texts ih =>
    rw [List.flatMap_cons, List.flatMap_cons, List.append_assoc, List.singleton_append, namesOfText_append (.inr rfl),
      ih]

/-- One listable name a line is what the names of a text are read from. -/
theorem namesOfText_lines_of_listableText {names : List (List Char)} (h : ∀ n ∈ names, ListableText n) :
    namesOfText (names.flatMap (· ++ ['\n'])) = names := by
  rw [namesOfText_lines]
  induction names with
  | nil => rfl
  | cons n names ih =>
    obtain ⟨hn, hnames⟩ := List.forall_mem_cons.mp h
    rw [List.flatMap_cons, namesOfText_of_listableText hn, ih hnames, List.singleton_append]

/-- A listable text on a line of its own is named, whatever stands on the other lines. -/
theorem mem_namesOfText_lines {texts : List (List Char)} {text : List Char} (hmem : text ∈ texts)
    (htext : ListableText text) : text ∈ namesOfText (texts.flatMap (· ++ ['\n'])) := by
  rw [namesOfText_lines, List.mem_flatMap]
  exact ⟨text, hmem, by rw [namesOfText_of_listableText htext]; exact List.mem_singleton_self text⟩

/-- Whatever a service file lists could be listed. -/
theorem listable_of_mem_readNames {content : Bytes} {names : NameSet}
    (h : readNames content = some names) {n : Bytes} (hn : n ∈ names.toList) : Listable n := by
  obtain ⟨cs, -, rfl⟩ := Option.map_eq_some_iff.mp h
  rw [NameSet.mem_toList_ofNames, List.mem_map] at hn
  obtain ⟨text, htext, rfl⟩ := hn
  exact listable_ofChars_iff.mpr (listableText_of_mem_namesOfText htext)

theorem writeNames_map_ofChars (texts : List (List Char)) :
    writeNames (texts.map Bytes.ofChars) = Bytes.ofChars (texts.flatMap (· ++ ['\n'])) := by
  induction texts with
  | nil => rfl
  | cons text texts ih =>
    have hlf : Bytes.ofChars ['\n'] = [0x0a] := rfl
    simp only [writeNames, List.map_cons, List.flatMap_cons, Bytes.ofChars_append, hlf] at ih ⊢
    rw [ih]

theorem readNames_writeNames_map_ofChars (texts : List (List Char)) :
    readNames (writeNames (texts.map Bytes.ofChars)) =
      some (NameSet.ofNames ((namesOfText (texts.flatMap (· ++ ['\n']))).map Bytes.ofChars)) := by
  rw [readNames, Utf8.mapM_char?_glyphs_eq_some_iff.mpr (writeNames_map_ofChars texts), Option.map_some]

/-- Names that a service file can list are read as they were written. -/
theorem readNames_writeNames {names : List Bytes} (h : ∀ n ∈ names, Listable n) :
    readNames (writeNames names) = some (NameSet.ofNames names) := by
  obtain ⟨texts, rfl, htexts⟩ : ∃ texts : List (List Char), names = texts.map Bytes.ofChars ∧
      ∀ t ∈ texts, ListableText t := by
    induction names with
    | nil => exact ⟨[], rfl, by simp⟩
    | cons n names ih =>
      obtain ⟨text, rfl, htext⟩ := (h n List.mem_cons_self).exists_text
      obtain ⟨texts, rfl, htexts⟩ := ih fun m hm => h m (List.mem_cons_of_mem _ hm)
      exact ⟨text :: texts, rfl, by simpa using ⟨htext, htexts⟩⟩
  rw [readNames_writeNames_map_ofChars, namesOfText_lines_of_listableText htexts]

/-- Names that are valid text make a file that can be read. It lists those of them that can be listed,
whatever the others look like. -/
theorem mem_readNames_writeNames {names : List Bytes} (h : ∀ n ∈ names, Utf8.isValid n = true) :
    ∃ back : NameSet, readNames (writeNames names) = some back ∧
      ∀ n ∈ names, Listable n → n ∈ back.toList := by
  obtain ⟨texts, rfl⟩ : ∃ texts : List (List Char), names = texts.map Bytes.ofChars := by
    induction names with
    | nil => exact ⟨[], rfl⟩
    | cons n names ih =>
      obtain ⟨text, rfl⟩ := Utf8.isValid_iff.mp (h n List.mem_cons_self)
      obtain ⟨texts, rfl⟩ := ih fun m hm => h m (List.mem_cons_of_mem _ hm)
      exact ⟨text :: texts, rfl⟩
  refine ⟨_, readNames_writeNames_map_ofChars texts, fun n hn hlist => ?_⟩
  obtain ⟨text, htext, rfl⟩ := List.mem_map.mp hn
  rw [NameSet.mem_toList_ofNames]
  exact List.mem_map_of_mem (mem_namesOfText_lines htext (listable_ofChars_iff.mp hlist))

/-- The content that lists the same names as another one, in ascending order and nothing else. -/
def canonical? (content : Bytes) : Option Bytes :=
  (readNames content).map fun names => writeNames names.toList

/-- The names of a file, written in ascending order, are the names of the file. -/
theorem readNames_writeNames_toList {content : Bytes} {names : NameSet}
    (h : readNames content = some names) : readNames (writeNames names.toList) = some names := by
  rw [readNames_writeNames fun _ hn => listable_of_mem_readNames h hn, NameSet.ofNames_toList]

/-- Names come back from the file that lists them, all of them and no others, just when each of them
can be listed. Whatever a file lists can be listed; so each file has a canonical content, which lists
the same names and is its own canonical content. -/
theorem readNames_roundTrip :
    (∀ names : List Bytes,
      (∃ back : NameSet, readNames (writeNames names) = some back ∧
          ∀ n, n ∈ back.toList ↔ n ∈ names) ↔
        ∀ n ∈ names, Listable n) ∧
    ∀ (content : Bytes) (listed : NameSet), readNames content = some listed →
      (∀ n ∈ listed.toList, Listable n) ∧ listed.toList.Pairwise (· < ·) ∧
      ∃ canonical, canonical? content = some canonical ∧ canonical = writeNames listed.toList ∧
        readNames canonical = some listed ∧ canonical? canonical = some canonical := by
  refine ⟨fun names => ⟨?_, ?_⟩, fun content listed hlisted => ⟨?_, ?_, ?_⟩⟩
  · rintro ⟨back, hback, hsame⟩ n hn
    exact listable_of_mem_readNames hback ((hsame n).mpr hn)
  · intro hnames
    exact ⟨_, readNames_writeNames hnames, fun n => NameSet.mem_toList_ofNames⟩
  · exact fun n hn => listable_of_mem_readNames hlisted hn
  · exact listed.ascending_toList
  · have hback := readNames_writeNames_toList hlisted
    refine ⟨_, ?_, rfl, hback, ?_⟩
    · rw [canonical?, hlisted, Option.map_some]
    · rw [canonical?, hback, Option.map_some]

/-- A file with a comment, white space and three kinds of line end; and names, of which the second one
is lost in white space. -/
theorem readNames_roundTrip_mixed :
    canonical? "b # kept\r\n\u00a0a\u00a0\r\rb\n" = some (Bytes.ofString "a\nb\n") ∧
      canonical? "a\nb\n" = some (Bytes.ofString "a\nb\n") ∧
      ¬ ∃ back : NameSet, readNames (writeNames ["a", "b "]) = some back ∧
        ∀ n, n ∈ back.toList ↔ n ∈ [Bytes.ofString "a", Bytes.ofString "b "] := by
  have hcanonical : canonical? "b # kept\r\n\u00a0a\u00a0\r\rb\n" = some (Bytes.ofString "a\nb\n") := by
    decide +kernel
  obtain ⟨listed, hlisted, -⟩ := Option.map_eq_some_iff.mp hcanonical
  obtain ⟨-, -, canonical, hcanonical', -, -, hself⟩ := readNames_roundTrip.2 _ listed hlisted
  obtain rfl : canonical = Bytes.ofString "a\nb\n" := Option.some.inj (hcanonical'.symm.trans hcanonical)
  refine ⟨hcanonical, hself, fun hback => ?_⟩
  exact absurd (((readNames_roundTrip.1 _).mp hback) "b " (by simp)) (by decide)

end Registry
end ServiceAnnotations
