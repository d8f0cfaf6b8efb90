import ServiceAnnotations.Proofs.Registry.Collection
import ServiceAnnotations.Proofs.Registry.Emission
import ServiceAnnotations.Proofs.Registry.ServiceFile

/-! # Hosts that do not fail

When nothing fails, what is collected depends on the declarations alone, not on when they are shown. -/
namespace ServiceAnnotations.Registry

variable {τ σ : Type}

def Reading.ofContent : Option Bytes → Reading
  | none => .absent
  | some data => .content data

/-- A host that does not fail on files that satisfy `ok`, and that answers questions about types by the
types alone. -/
structure FileStore.Reliable {h : Host τ σ} (store : FileStore h) (ok : σ → Prop)
    (exact erased : τ → τ → Bool) : Prop extends h.Writes ok where
  isSubtype : ∀ {files} t i, ok files → (h.isSubtype t i files).1 = .ok (exact t i)
  ok_isSubtype : ∀ {files} t i, ok files → ok (h.isSubtype t i files).2
  isErasedSubtype : ∀ {files} t i, ok files → (h.isErasedSubtype t i files).1 = .ok (erased t i)
  ok_isErasedSubtype : ∀ {files} t i, ok files → ok (h.isErasedSubtype t i files).2
  reads : ∀ {files} path, ok files → (h.read path files).1 = .ok (.ofContent (store.content files path))

/-- The kind of a declaration is known. -/
def Frame.Sound (f : Frame) : Prop := ∃ kind, f.kind = .ok kind

/-- The host does not break down on a declaration, or on the types that its annotations name. -/
structure Element.Sound (e : Element τ) : Prop where
  decl : e.decl.toFrame.Sound
  outer : ∀ d ∈ e.outer, d.toFrame.Sound
  named : ∀ annot ∈ e.annots, ∀ interfaces, annot.interfaces? = some interfaces →
    ∀ t ∈ interfaces, ∀ f ∈ t.outer, f.Sound

def confirmed (s : Settings) (exact erased : τ → τ → Bool) (provider interface : τ) : Bool :=
  !s.verify || exact provider interface || erased provider interface

/-- Whether a declaration provides an interface when nothing fails. -/
def Element.Provides (s : Settings) (exact erased : τ → τ → Bool) (e : Element τ) (i p : Bytes) :
    Prop :=
  ∃ provider annot interfaces interface, e.decl.kind = .ok .concrete ∧ e.typeRef? = some provider ∧
    findAnnot e.annots s.annotName = some annot ∧ annot.interfaces? = some interfaces ∧
    interface ∈ interfaces ∧ confirmed s exact erased provider.token interface.token = true ∧
    interface.binaryName = .ok i ∧ provider.binaryName = .ok p

theorem exists_binaryNameFrom {outer : List Frame} (h : ∀ f ∈ outer, f.Sound) (name : Bytes) :
    ∃ n, binaryNameFrom outer name = .ok n := by
  induction outer generalizing name with
  | nil => exact ⟨name, rfl⟩
  | cons f outer ih =>
    obtain ⟨kind, hkind⟩ := h f List.mem_cons_self
    simp only [binaryNameFrom, hkind]
    by_cases hp : kind = .package
    · exact ⟨_, if_pos hp⟩
    · obtain ⟨n, hn⟩ := ih (fun f hf => h f (List.mem_cons_of_mem _ hf))
        (f.simpleName ++ Bytes.ofString "$" ++ name)
      exact ⟨n, (if_neg hp).trans hn⟩

def Offer.Sound : Offer τ → Prop
  | broken _ => False
  | pair _ provider _ interface =>
    (∃ p, provider.binaryName = .ok p) ∧ ∃ i, interface.binaryName = .ok i
  | _ => True

theorem Element.Sound.offers {e : Element τ} (he : e.Sound) (s : Settings) :
    ∀ o ∈ e.offers s, o.Sound := by
  obtain ⟨kind, hkind⟩ := he.decl
  unfold Element.offers
  simp only [hkind]
  split
  · simp
  · split
    · rename_i provider annot ht ha
      split
      · simp [Offer.Sound]
      · simp [Offer.Sound]
      · rename_i interfaces hne hi
        simp only [List.mem_map]
        rintro _ ⟨interface, hin, rfl⟩
        have hprovider : ∀ f ∈ provider.outer, f.Sound := by
          obtain ⟨token, -, rfl⟩ := Option.map_eq_some_iff.mp ht
          simpa using he.outer
        have hannot := List.mem_of_find?_eq_some ha
        exact ⟨exists_binaryNameFrom hprovider _,
          exists_binaryNameFrom (he.named annot hannot interfaces hi interface hin) _⟩
    · simp

section
variable {h : Host τ σ} {store : FileStore h} {ok : σ → Prop} {exact erased : τ → τ → Bool}
  (hrel : store.Reliable ok exact erased) {s : Settings} {files : σ}
include hrel

theorem confirms_reliable (hok : ok files) (t i : τ) :
    (h.confirms s.verify t i files).1 = .ok (confirmed s exact erased t i) ∧
      ok (h.confirms s.verify t i files).2 ∧
      store.content (h.confirms s.verify t i files).2 = store.content files := by
  have hexact := hrel.isSubtype t i hok
  have hok₁ := hrel.ok_isSubtype t i hok
  have hkept₁ := store.content_isSubtype t i files
  unfold Host.confirms confirmed
  cases s.verify with
  | false => exact ⟨rfl, hok, rfl⟩
  | true =>
    rcases hcall : h.isSubtype t i files with ⟨answer, files₁⟩
    rw [hcall] at hexact hok₁ hkept₁
    obtain rfl : answer = .ok (exact t i) := hexact
    have herased := hrel.isErasedSubtype t i hok₁
    have hok₂ := hrel.ok_isErasedSubtype t i hok₁
    have hkept₂ := store.content_isErasedSubtype t i files₁
    cases exact t i with
    | false => exact ⟨by simpa using herased, hok₂, hkept₂.trans hkept₁⟩
    | true => exact ⟨rfl, hok₁, hkept₁⟩

theorem finding_reliable {o : Offer τ} (ho : o.Sound) (hok : ok files) :
    (o.finding h s files).1.outcome = .ok () ∧ ok (o.finding h s files).2 ∧
      store.content (o.finding h s files).2 = store.content files := by
  cases o with
  | broken cause => exact ho.elim
  | malformed e annot => exact ⟨rfl, hok, rfl⟩
  | empty e annot => exact ⟨rfl, hok, rfl⟩
  | pair e provider annot interface =>
    obtain ⟨⟨p, hp⟩, i, hi⟩ := ho
    have hconf := confirms_reliable hrel (s := s) hok provider.token interface.token
    simp only [Offer.finding]
    rcases hcall : h.confirms s.verify provider.token interface.token files with ⟨answer, files₁⟩
    rw [hcall] at hconf
    obtain ⟨hanswer, hok₁, hkept₁⟩ := hconf
    obtain rfl : answer = .ok (confirmed s exact erased provider.token interface.token) := hanswer
    cases confirmed s exact erased provider.token interface.token with
    | false => exact ⟨rfl, hok₁, hkept₁⟩
    | true => exact ⟨by simp [hi, hp, Finding.ofNames, Finding.outcome], hok₁, hkept₁⟩

/-- Sound offers are all examined, and the files stay as they are. -/
theorem examined_reliable {os : List (Offer τ)} {fs : List (Finding τ)} {files' : σ}
    (hex : Examined h s files os fs files') (hos : ∀ o ∈ os, o.Sound) (hok : ok files) :
    (∀ f ∈ fs, f.outcome = .ok ()) ∧ ok files' ∧ store.content files' = store.content files := by
  induction hex with
  | done files => exact ⟨by simp, hok, rfl⟩
  | next now goesOn later ih =>
    obtain ⟨-, hok₁, hkept₁⟩ := finding_reliable hrel (s := s) (hos _ List.mem_cons_self) hok
    rw [now] at hok₁ hkept₁
    obtain ⟨hfs, hok₂, hkept₂⟩ := ih (fun o ho => hos o (List.mem_cons_of_mem _ ho)) hok₁
    exact ⟨by simpa [goesOn] using hfs, hok₂, hkept₂.trans hkept₁⟩
  | stop now =>
    obtain ⟨hout, -, -⟩ := finding_reliable hrel (s := s) (hos _ List.mem_cons_self) hok
    rw [now] at hout
    cases hout

theorem accepts_iff_provides {shown : List (Element τ)} (hshown : ∀ e ∈ shown, e.Sound)
    (hok : ok files) (i p : Bytes) :
    Accepts h s files shown i p ↔ ∃ e ∈ shown, e.Provides s exact erased i p := by
  have hbefore : ∀ {es₁ e es₂ provider annot is₁ interface is₂}, shown = es₁ ++ e :: es₂ →
      e.decl.kind = .ok .concrete → e.typeRef? = some provider →
      findAnnot e.annots s.annotName = some annot →
      annot.interfaces? = some (is₁ ++ interface :: is₂) →
      ∀ o ∈ es₁.flatMap (·.offers s) ++ is₁.map (.pair e provider annot), o.Sound := by
    rintro es₁ e es₂ provider annot is₁ interface is₂ rfl hkind ht ha hi o ho
    have hoffers := offers_eq_append_pair_iff.mpr ⟨rfl, hkind, ht, ha, is₁, is₂, hi, rfl, rfl⟩
    rcases List.mem_append.mp ho with ho | ho
    · obtain ⟨x, hx, ho⟩ := List.mem_flatMap.mp ho
      exact (hshown x (by simp [hx])).offers s o ho
    · exact (hshown e (by simp)).offers s o (hoffers ▸ List.mem_append_left _ ho)
  constructor
  · rintro ⟨es₁, e, es₂, provider, annot, is₁, interface, is₂, fs, files₁, hsplit, hkind, ht, ha, hi, hex,
      -, hconf, hin, hpn⟩
    obtain ⟨-, hok₁, -⟩ := examined_reliable hrel hex (hbefore hsplit hkind ht ha hi) hok
    rw [(confirms_reliable hrel hok₁ _ _).1] at hconf
    exact ⟨e, by simp [hsplit], provider, annot, _, interface, hkind, ht, ha, hi, by simp,
      Except.ok.inj hconf, hin, hpn⟩
  · rintro ⟨e, he, provider, annot, interfaces, interface, hkind, ht, ha, hi, hmem, hconf, hin, hpn⟩
    obtain ⟨es₁, es₂, hsplit⟩ := List.append_of_mem he
    obtain ⟨is₁, is₂, rfl⟩ := List.append_of_mem hmem
    obtain ⟨fs, hfs⟩ := settle_takeOffers h s
      (es₁.flatMap (·.offers s) ++ is₁.map (.pair e provider annot)) { files }
    obtain ⟨hgoesOn, hok₁, -⟩ :=
      examined_reliable hrel hfs.examined (hbefore hsplit hkind ht ha hi) hok
    refine ⟨es₁, e, es₂, provider, annot, is₁, interface, is₂, fs, _, hsplit, hkind, ht, ha, hi,
      hfs.examined, hgoesOn, ?_, hin, hpn⟩
    rw [(confirms_reliable hrel hok₁ _ _).1, hconf]

end

/-- A round, not the last one, that shows the given declarations. -/
def Round.Shows (s : Settings) (round : Round τ) (shown : List (Element τ)) : Prop :=
  round.isLast = .ok false ∧ round.annotated s.annotName = .ok shown

theorem Round.Shows.shown_process {s : Settings} {round : Round τ} {shown : List (Element τ)}
    (hround : round.Shows s shown) : (Request.process round).shown s = .ok shown := by
  simp [Request.shown, hround.1, hround.2]

section
variable {h : Host τ σ} {store : FileStore h} {ok : σ → Prop} {exact erased : τ → τ → Bool}
  (hrel : store.Reliable ok exact erased) {s : Settings}
include hrel

/-- Rounds that do not fail collect what the declarations provide, and leave the files alone. -/
theorem answerAll_process_reliable {rounds : List (Round τ)} {shown : List (List (Element τ))}
    (hrounds : List.Forall₂ (Round.Shows s) rounds shown) (hshown : ∀ e ∈ shown.flatten, e.Sound)
    (r : Run τ σ) (hphase : r.phase = .collecting) (hok : ok r.files) :
    let r' := answerAll h .attentive s (rounds.map .process) r
    r'.phase = .collecting ∧ ok r'.files ∧ store.content r'.files = store.content r.files ∧
      r'.opened = r.opened ∧ ∀ i p, r'.index.Lists i p ↔
        r.index.Lists i p ∨ ∃ e ∈ shown.flatten, e.Provides s exact erased i p := by
  induction hrounds generalizing r with
  | nil => exact ⟨hphase, hok, rfl, rfl, by simp [answerAll]⟩
  | @cons round es rounds shown hround hrounds ih =>
    have hes : ∀ e ∈ es, e.Sound := fun e he => hshown e (by simp [he])
    have hgathers : (Request.process round).Gathers := by simp [Request.Gathers, hround.1]
    obtain ⟨fs, hfs⟩ := answer_examines h s (.process round) r hgathers hphase
    have hoffers : ∀ o ∈ (Request.process round).offers s, o.Sound := by
      simp only [Request.offers, hround.shown_process, List.mem_flatMap]
      rintro o ⟨e, he, ho⟩
      exact (hes e he).offers s o ho
    obtain ⟨-, hok₁, hkept₁⟩ := examined_reliable hrel hfs.examined hoffers hok
    obtain ⟨hphase', hok', hkept', hopened', hlists'⟩ :=
      ih (fun e he => hshown e (by simp [List.mem_flatten.mp he])) _ (hfs.phase.trans hphase) hok₁
    refine ⟨hphase', hok', hkept'.trans hkept₁, hopened'.trans hfs.opened, fun i p => ?_⟩
    have hlists := lists_answer h s (.process round) r hgathers hphase i p
    simp only [hround.shown_process, Except.ok.injEq, exists_eq_left',
      accepts_iff_provides hrel hes hok] at hlists
    rw [List.map_cons, answerAll, List.foldl_cons, ← answerAll, hlists' i p, hlists, or_assoc]
    simp [or_and_right, exists_or]

/-- The rounds of a run and the last one, together. What the declarations provide is what the files are
visited for. -/
theorem answerAll_session_reliable {rounds : List (Round τ)} {shown : List (List (Element τ))}
    {last : Round τ} (hrounds : List.Forall₂ (Round.Shows s) rounds shown)
    (hlast : last.isLast = .ok true) (hshown : ∀ e ∈ shown.flatten, e.Sound) (files : σ)
    (hok : ok files) :
    ∃ vs r₁ r₂, answerAll h .attentive s (rounds.map .process ++ [.process last]) { files } = r₂.setPhase .done ∧
      ok r₂.files ∧ Visited store ok vs r₁ r₂ ∧ r₁.opened = [] ∧
      store.content r₁.files = store.content files ∧
      (∀ v ∈ vs, v.reading = .ofContent (store.content files v.path)) ∧
      ∀ i p, (∃ v ∈ vs, v.interface = i ∧ p ∈ v.providers) ↔
        ∃ e ∈ shown.flatten, e.Provides s exact erased i p := by
  obtain ⟨hphase, hok₁, hkept, hopened, hlists⟩ :=
    answerAll_process_reliable hrel hrounds hshown { files } rfl hok
  generalize hr₁ : answerAll h .attentive s (rounds.map .process) { files } = r₁ at hphase hok₁ hkept hopened hlists
  obtain ⟨vs, r₂, hemit, hok₂, hrows, hv⟩ := emit_visited store s hrel.toWrites r₁ hphase hok₁
  refine ⟨vs, r₁, r₂, ?_, hok₂, hv, hopened, hkept, ?_, fun i p => ?_⟩
  · rw [answerAll_append, hr₁]
    exact answer_last hlast hemit
  · intro v hvin
    obtain ⟨files', hok', hsame, hread⟩ := hv.read v hvin
    rw [hrel.reads v.path hok', hsame, hkept] at hread
    exact (Except.ok.inj hread).symm
  · have hlisted : r₁.index.Lists i p ↔ ∃ v ∈ vs, v.interface = i ∧ p ∈ v.providers := by
      simp only [Index.Lists, ← hrows, List.mem_map, Visit.row, Prod.mk.injEq]
      constructor
      · rintro ⟨_, ⟨v, hvin, rfl, rfl⟩, hp⟩
        exact ⟨v, hvin, rfl, hp⟩
      · rintro ⟨v, hvin, rfl, hp⟩
        exact ⟨v.providers, ⟨v, hvin, rfl, rfl⟩, hp⟩
    rw [← hlisted, hlists i p]
    simp

end

namespace MemoryFiles

def Faultless (m : MemoryFiles) : Prop :=
  m.Writable ∧ ∀ path, m.faults.opening.get? path = none ∧ m.faults.reading.get? path = none

theorem reliable_store (f : TypeFacts)
    (hf : f.exactBreak = none ∧ f.exactError = none ∧ f.erasedError = none) :
    (store f).Reliable Faultless (fun t i => f.exact.contains (t, i))
      (fun t i => f.exact.contains (t, i) || f.raw.contains (t, i)) where
  read path hm := (writes_memoryHost f).read path hm.1
  ok_read _ hm := hm
  write path data hm := (writes_memoryHost f).write path data hm.1
  ok_write := by
    intro m path data hm
    simp only [memoryHost, write, hm.1 path]
    exact hm
  isSubtype t i _ := by simp [memoryHost, TypeFacts.isSubtype, hf]
  ok_isSubtype _ _ hm := hm
  isErasedSubtype t i _ := by simp [memoryHost, TypeFacts.isErasedSubtype, hf]
  ok_isErasedSubtype _ _ hm := hm
  reads := by
    intro m path hm
    simp only [memoryHost, read, (hm.1 path).2.2.2, (hm.2 path).1, store]
    cases m.contents.get? path with
    | none => rfl
    | some data => simp [(hm.2 path).2, Reading.ofContent]

end MemoryFiles

end ServiceAnnotations.Registry
