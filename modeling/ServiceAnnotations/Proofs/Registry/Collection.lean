import Mathlib.Data.List.Induction
import ServiceAnnotations.Proofs.Registry.Index
import ServiceAnnotations.Proofs.Registry.Offer
import ServiceAnnotations.Registry.MemoryHost

/-! # What is collected

The index lists the pairs that were accepted before the host failed, round by round. -/
namespace ServiceAnnotations.Registry

variable {τ σ : Type}

def Finding.pair? : Finding τ → Option (Bytes × Bytes)
  | recorded i p => some (i, p)
  | _ => none

theorem Finding.pair?_eq_some_iff {f : Finding τ} {i p : Bytes} : f.pair? = some (i, p) ↔ f = recorded i p := by
  cases f <;> simp [pair?]

theorem foldl_addTo (fs : List (Finding τ)) (idx : Index) :
    fs.foldl Finding.addTo idx = idx.addAll (fs.filterMap Finding.pair?) := by
  induction fs generalizing idx with
  | nil => rfl
  | cons f fs ih =>
    rw [List.foldl_cons, ih]
    cases f <;> rfl

theorem lists_foldl_addTo {fs : List (Finding τ)} {idx : Index} {i p : Bytes} :
    (fs.foldl Finding.addTo idx).Lists i p ↔ idx.Lists i p ∨ .recorded i p ∈ fs := by
  simp [foldl_addTo, Index.lists_addAll, Finding.pair?_eq_some_iff]

/-- Whether a pair of names is accepted in a round that shows the given declarations to a host in the
given state: some class declares a type, the first provider annotation on it names types only, among
them the interface, the host does not fail before it comes to this place of the annotation, and there
it confirms the pair and gives both names. -/
def Accepts (h : Host τ σ) (s : Settings) (files : σ) (shown : List (Element τ)) (i p : Bytes) : Prop :=
  ∃ es₁ e es₂ provider annot is₁ interface is₂ findings files₁,
    shown = es₁ ++ e :: es₂ ∧ e.decl.kind = .ok .concrete ∧ e.typeRef? = some provider ∧
    findAnnot e.annots s.annotName = some annot ∧
    annot.interfaces? = some (is₁ ++ interface :: is₂) ∧
    Examined h s files (es₁.flatMap (·.offers s) ++ is₁.map (.pair e provider annot)) findings files₁ ∧
    (∀ f ∈ findings, f.outcome = .ok ()) ∧
    (h.confirms s.verify provider.token interface.token files₁).1 = .ok true ∧
    interface.binaryName = .ok i ∧ provider.binaryName = .ok p

theorem ofNames_eq_recorded_iff {interface provider : Except Bytes Bytes} {i p : Bytes} :
    Finding.ofNames (τ := τ) interface provider = .recorded i p ↔
      interface = .ok i ∧ provider = .ok p := by
  rcases interface with _ | _ <;> rcases provider with _ | _ <;> simp [Finding.ofNames]

theorem finding_eq_recorded_iff {h : Host τ σ} {s : Settings} {files : σ} {o : Offer τ} {i p : Bytes} :
    (o.finding h s files).1 = .recorded i p ↔
      ∃ e provider annot interface, o = .pair e provider annot interface ∧
        (h.confirms s.verify provider.token interface.token files).1 = .ok true ∧
        interface.binaryName = .ok i ∧ provider.binaryName = .ok p := by
  cases o with
  | pair e provider annot interface =>
    have hpair : ((Offer.pair e provider annot interface).finding h s files).1 = .recorded i p ↔
        (h.confirms s.verify provider.token interface.token files).1 = .ok true ∧
          interface.binaryName = .ok i ∧ provider.binaryName = .ok p := by
      simp only [Offer.finding]
      rcases h.confirms s.verify provider.token interface.token files with ⟨_ | _ | _, files₁⟩
      · simp
      · simp
      · simp [ofNames_eq_recorded_iff]
    rw [hpair]
    constructor
    · exact fun hrec => ⟨e, provider, annot, interface, rfl, hrec⟩
    · rintro ⟨_, _, _, _, ho, hrec⟩
      cases ho
      exact hrec
  | _ => simp [Offer.finding]

theorem offers_eq_append_pair_iff {s : Settings} {e x : Element τ} {provider interface : TypeRef τ}
    {annot : Annot τ} {os₁ os₂ : List (Offer τ)} :
    e.offers s = os₁ ++ .pair x provider annot interface :: os₂ ↔
      x = e ∧ e.decl.kind = .ok .concrete ∧ e.typeRef? = some provider ∧
      findAnnot e.annots s.annotName = some annot ∧
      ∃ is₁ is₂, annot.interfaces? = some (is₁ ++ interface :: is₂) ∧
        os₁ = is₁.map (.pair e provider annot) ∧ os₂ = is₂.map (.pair e provider annot) := by
  constructor
  · intro ho
    unfold Element.offers at ho
    split at ho
    · simp [List.cons_eq_append_iff] at ho
    · rename_i kind hkind
      split at ho
      · simp at ho
      · rename_i hconcrete
        obtain rfl : kind = .concrete := by simpa using hconcrete
        split at ho
        · rename_i provider' annot' ht ha
          split at ho
          · simp [List.cons_eq_append_iff] at ho
          · simp [List.cons_eq_append_iff] at ho
          · rename_i interfaces hi
            obtain ⟨is₁, is₃, rfl, hos₁, hos₃⟩ := List.map_eq_append_iff.mp ho
            obtain ⟨i, is₂, rfl, hpair, hos₂⟩ := List.map_eq_cons_iff.mp hos₃
            cases hpair
            exact ⟨rfl, hkind, ht, ha, is₁, is₂, hi, hos₁.symm, hos₂.symm⟩
        · simp at ho
  · rintro ⟨rfl, hkind, ht, ha, is₁, is₂, hi, rfl, rfl⟩
    have hne : is₁ ++ interface :: is₂ ≠ [] := by simp
    obtain ⟨j, js, hjs⟩ := List.exists_cons_of_ne_nil hne
    unfold Element.offers
    simp only [hkind, ht, ha, hi, ne_eq, not_true_eq_false, if_false]
    rw [hjs, ← hjs]
    simp

theorem flatMap_eq_append_cons_iff {α β : Type} {f : α → List β} {xs : List α} {ys₁ ys₂ : List β}
    {y : β} :
    xs.flatMap f = ys₁ ++ y :: ys₂ ↔ ∃ xs₁ x xs₂ zs₁ zs₂, xs = xs₁ ++ x :: xs₂ ∧
      f x = zs₁ ++ y :: zs₂ ∧ ys₁ = xs₁.flatMap f ++ zs₁ ∧ ys₂ = zs₂ ++ xs₂.flatMap f := by
  constructor
  · intro hxs
    induction xs generalizing ys₁ with
    | nil => simp at hxs
    | cons x xs ih =>
      rw [List.flatMap_cons, List.append_eq_append_iff] at hxs
      rcases hxs with ⟨zs, rfl, hrest⟩ | ⟨zs, hx, hrest⟩
      · obtain ⟨xs₁, x', xs₂, zs₁, zs₂, rfl, hx', rfl, rfl⟩ := ih hrest
        exact ⟨x :: xs₁, x', xs₂, zs₁, zs₂, rfl, hx', by simp, rfl⟩
      · cases zs with
        | nil =>
          have hxs : xs.flatMap f = [] ++ y :: ys₂ := by simpa using hrest.symm
          obtain ⟨xs₁, x', xs₂, zs₁, zs₂, rfl, hx', hnil, rfl⟩ := ih hxs
          refine ⟨x :: xs₁, x', xs₂, zs₁, zs₂, rfl, hx', ?_, rfl⟩
          rw [List.flatMap_cons, List.append_assoc, ← hnil]
          simpa using hx.symm
        | cons z zs =>
          obtain ⟨rfl, rfl⟩ := List.cons.inj hrest
          exact ⟨[], x, xs, ys₁, zs, rfl, hx, rfl, rfl⟩
  · rintro ⟨xs₁, x, xs₂, zs₁, zs₂, rfl, hx, rfl, rfl⟩
    simp [hx]

theorem recorded_mem_iff {h : Host τ σ} {s : Settings} {files files' : σ} {shown : List (Element τ)}
    {findings : List (Finding τ)} {i p : Bytes}
    (hex : Examined h s files (shown.flatMap (·.offers s)) findings files') :
    .recorded i p ∈ findings ↔ Accepts h s files shown i p := by
  rw [hex.mem_iff]
  constructor
  · rintro ⟨os₁, o, os₂, fs₁, files₁, hos, hex₁, hok, hrec⟩
    obtain ⟨x, provider, annot, interface, rfl, hconfirms, hi, hp⟩ := finding_eq_recorded_iff.mp hrec
    obtain ⟨es₁, e, es₂, zs₁, zs₂, rfl, hoffers, rfl, -⟩ := flatMap_eq_append_cons_iff.mp hos
    obtain ⟨rfl, hkind, ht, ha, is₁, is₂, his, rfl, -⟩ := offers_eq_append_pair_iff.mp hoffers
    exact ⟨es₁, x, es₂, provider, annot, is₁, interface, is₂, fs₁, files₁, rfl, hkind, ht, ha, his, hex₁,
      hok, hconfirms, hi, hp⟩
  · rintro ⟨es₁, e, es₂, provider, annot, is₁, interface, is₂, fs₁, files₁, rfl, hkind, ht, ha, his, hex₁,
      hok, hconfirms, hi, hp⟩
    have hoffers := offers_eq_append_pair_iff.mpr ⟨rfl, hkind, ht, ha, is₁, is₂, his, rfl, rfl⟩
    have hos := flatMap_eq_append_cons_iff.mpr ⟨es₁, e, es₂, _, _, rfl, hoffers, rfl, rfl⟩
    refine ⟨_, _, _, fs₁, files₁, hos, hex₁, hok, finding_eq_recorded_iff.mpr ?_⟩
    exact ⟨e, provider, annot, interface, rfl, hconfirms, hi, hp⟩

namespace Request

/-- Whether a request leaves a registrar collecting. -/
def Gathers : Request τ → Prop
  | process round => round.isLast ≠ .ok true
  | collect _ => True
  | emit => False

/-- The declarations that a request shows, unless the host breaks down when asked for them. -/
def shown (s : Settings) : Request τ → Except Bytes (List (Element τ))
  | process round =>
    match round.isLast with
    | .error cause => .error cause
    | .ok true => .ok []
    | .ok false => round.annotated s.annotName
  | collect elements => .ok elements
  | emit => .ok []

/-- The offers that a request makes. -/
def offers (s : Settings) (q : Request τ) : List (Offer τ) :=
  match q.shown s with
  | .error cause => [.broken cause]
  | .ok shown => shown.flatMap (·.offers s)

end Request

theorem collect_run (h : Host τ σ) (s : Settings) (elements : List (Element τ)) (r : Run τ σ)
    (hphase : r.phase = .collecting) :
    ∃ fs r', (collect h .attentive s elements).run r = (.ok none, r') ∧
      r.Examines h s (elements.flatMap (·.offers s)) fs r' := by
  obtain ⟨fs, hfs⟩ := settle_takeOffers h s (elements.flatMap (·.offers s)) r
  refine ⟨fs, _, ?_, hfs⟩
  rw [Step.run_collect_attentive h s elements hphase, collectElements_eq_takeOffers]

/-- A host that breaks down before it shows anything leaves one failure behind. -/
theorem examines_fatal (h : Host τ σ) (s : Settings) (cause : Bytes) (r : Run τ σ) :
    r.Examines h s [.broken cause] [.failed (.broken cause)] (r.fatal (Failure.broken cause).message) where
  examined := .stop rfl
  phase := rfl
  index := rfl
  errors := Run.errors_fatal ..
  opened := Run.opened_fatal ..

theorem Run.Examines.of_note {h : Host τ σ} {s : Settings} {d : Diagnostic} {r r' : Run τ σ}
    {os : List (Offer τ)} {fs : List (Finding τ)} (hd : d.severity ≠ .error)
    (hr : (r.note s d).Examines h s os fs r') : r.Examines h s os fs r' where
  examined := Run.files_note r d s ▸ hr.examined
  phase := by rw [hr.phase, Run.phase_note]
  index := by rw [hr.index, Run.index_note]
  errors := by rw [hr.errors, Run.errors_note _ _ _ hd]
  opened := by rw [hr.opened, Run.opened_note]

/-- A round, not the last one, is known by the offers it makes. -/
theorem takeRound_examines (h : Host τ σ) (s : Settings) {round : Round τ} (r : Run τ σ)
    (hround : round.isLast ≠ .ok true) (hphase : r.phase = .collecting) :
    ∃ fs, r.Examines h s ((Request.process round).offers s) fs
      (r.settle (takeRound h .attentive s round)) := by
  rcases hlast : round.isLast with cause | _ | _
  · have hoffers : (Request.process round).offers s = [.broken cause] := by
      simp [Request.offers, Request.shown, hlast]
    rw [hoffers, Step.takeRound_broken h .attentive s hlast]
    exact ⟨_, examines_fatal h s cause r⟩
  · have hnote : (Diagnostic.round s.annotName).severity ≠ .error := by simp [Diagnostic.severity]
    rcases hshown : round.annotated s.annotName with cause | shown
    · have hoffers : (Request.process round).offers s = [.broken cause] := by
        simp [Request.offers, Request.shown, hlast, hshown]
      rw [hoffers, Step.takeRound_unshown h .attentive s hlast hshown, Step.note_attentive,
        Step.settle_modify_bind]
      exact ⟨_, .of_note hnote (examines_fatal h s cause _)⟩
    · have hoffers : (Request.process round).offers s = shown.flatMap (·.offers s) := by
        simp [Request.offers, Request.shown, hlast, hshown]
      obtain ⟨fs, r', hrun, hr'⟩ := collect_run h s shown (r.note s (.round s.annotName)) (by simpa)
      have hallowed := (Step.run_bind_ok hrun allowed).trans (Step.run_pure () r')
      rw [hoffers, Step.takeRound_shown h .attentive s hlast hshown, Step.note_attentive,
        Step.settle_modify_bind, Run.settle_of_ok hallowed]
      exact ⟨fs, .of_note hnote hr'⟩
  · exact absurd hlast hround

/-- A request to a collecting registrar is known by the offers it makes. -/
theorem answer_examines (h : Host τ σ) (s : Settings) (q : Request τ) (r : Run τ σ) (hq : q.Gathers)
    (hphase : r.phase = .collecting) :
    ∃ fs, r.Examines h s (q.offers s) fs (answer h .attentive s r q) := by
  cases q with
  | process round =>
    rw [answer_process, Step.run_processRound_attentive]
    exact takeRound_examines h s r hq hphase
  | collect elements =>
    obtain ⟨fs, r', hrun, hr'⟩ := collect_run h s elements r hphase
    refine ⟨fs, ?_⟩
    rw [answer_collect, hrun]
    exact hr'
  | emit => exact hq.elim

/-- What one request adds to the index. -/
theorem lists_answer (h : Host τ σ) (s : Settings) (q : Request τ) (r : Run τ σ) (hq : q.Gathers)
    (hphase : r.phase = .collecting) (i p : Bytes) :
    (answer h .attentive s r q).index.Lists i p ↔
      r.index.Lists i p ∨ ∃ shown, q.shown s = .ok shown ∧ Accepts h s r.files shown i p := by
  obtain ⟨fs, hfs⟩ := answer_examines h s q r hq hphase
  have hex := hfs.examined
  rw [hfs.index, lists_foldl_addTo]
  unfold Request.offers at hex
  cases hshown : q.shown s with
  | error cause =>
    rw [hshown] at hex
    have hnot : .recorded i p ∉ fs := by
      cases hex with
      | next now goesOn =>
        obtain ⟨rfl, -⟩ := Prod.mk.inj now
        cases goesOn
      | stop => simp
    simp [hnot]
  | ok shown =>
    rw [hshown] at hex
    simp [recorded_mem_iff hex]

theorem answerAll_append (h : Host τ σ) (l : Listener τ σ) (s : Settings) (qs qs' : List (Request τ))
    (r : Run τ σ) : answerAll h l s (qs ++ qs') r = answerAll h l s qs' (answerAll h l s qs r) :=
  List.foldl_append

theorem phase_answerAll (h : Host τ σ) (s : Settings) (qs : List (Request τ)) (r : Run τ σ)
    (hqs : ∀ q ∈ qs, q.Gathers) (hphase : r.phase = .collecting) :
    (answerAll h .attentive s qs r).phase = .collecting := by
  induction qs generalizing r with
  | nil => exact hphase
  | cons q qs ih =>
    obtain ⟨fs, hfs⟩ := answer_examines h s q r (hqs q (by simp)) hphase
    exact ih (answer h .attentive s r q) (fun q hq => hqs q (List.mem_cons_of_mem _ hq)) (hfs.phase.trans hphase)

/-- What a list of requests adds to the index. -/
theorem lists_answerAll (h : Host τ σ) (s : Settings) (qs : List (Request τ)) (r : Run τ σ)
    (hqs : ∀ q ∈ qs, q.Gathers) (hphase : r.phase = .collecting) (i p : Bytes) :
    (answerAll h .attentive s qs r).index.Lists i p ↔ r.index.Lists i p ∨
      ∃ before q after shown, qs = before ++ q :: after ∧ q.shown s = .ok shown ∧
        Accepts h s (answerAll h .attentive s before r).files shown i p := by
  -- From the last request, so that the run before it is that of the requests before it.
  induction qs using List.reverseRecOn with
  | nil => simp [answerAll]
  | append_singleton qs q ih =>
    have hqs' : ∀ q ∈ qs, q.Gathers := fun q hq => hqs q (List.mem_append_left _ hq)
    have hphase' := phase_answerAll h s qs r hqs' hphase
    have hlast := lists_answer h s q (answerAll h .attentive s qs r) (hqs q (by simp)) hphase' i p
    rw [answerAll_append]
    refine hlast.trans ?_
    rw [ih hqs', or_assoc]
    refine or_congr_right ⟨?_, ?_⟩
    · rintro (⟨before, q', after, shown, rfl, hshown, hacc⟩ | ⟨shown, hshown, hacc⟩)
      · exact ⟨before, q', after ++ [q], shown, by simp, hshown, hacc⟩
      · exact ⟨qs, q, [], shown, rfl, hshown, hacc⟩
    · rintro ⟨before, q', after, shown, hsplit, hshown, hacc⟩
      rcases List.eq_nil_or_concat after with rfl | ⟨after', q'', rfl⟩
      · obtain ⟨rfl, hq⟩ := List.append_inj' hsplit rfl
        cases hq
        exact .inr ⟨shown, hshown, hacc⟩
      · have hsplit' : qs ++ [q] = (before ++ q' :: after') ++ [q''] := by simpa using hsplit
        obtain ⟨rfl, -⟩ := List.append_inj' hsplit' rfl
        exact .inl ⟨before, q', after', shown, rfl, hshown, hacc⟩

/-- While a registrar collects, its index lists exactly the pairs that are accepted in some round,
also when the host fails. Every round leaves behind the errors of what it comes to, one for each
complaint, and one for the failure that ends it, if the host fails. -/
theorem index_answerAll (h : Host τ σ) (s : Settings) (files : σ) (qs : List (Request τ))
    (hqs : ∀ q ∈ qs, q.Gathers) :
    (answerAll h .attentive s qs { files }).phase = .collecting ∧
    (∀ i p, (answerAll h .attentive s qs { files }).index.Lists i p ↔
      ∃ before q after shown, qs = before ++ q :: after ∧ q.shown s = .ok shown ∧
        Accepts h s (answerAll h .attentive s before { files }).files shown i p) ∧
    ∀ before q after, qs = before ++ q :: after → ∃ findings,
      Examined h s (answerAll h .attentive s before { files }).files (q.offers s) findings
        (answerAll h .attentive s (before ++ [q]) { files }).files ∧
      (answerAll h .attentive s (before ++ [q]) { files }).errors =
        (answerAll h .attentive s before { files }).errors ++ findings.filterMap Finding.error? := by
  refine ⟨phase_answerAll h s qs _ hqs rfl, ?_, ?_⟩
  · intro i p
    rw [lists_answerAll h s qs _ hqs rfl]
    simp
  · rintro before q after rfl
    have hbefore : ∀ q ∈ before, q.Gathers := fun q hq => hqs q (List.mem_append_left _ hq)
    have hphase := phase_answerAll h s before { files } hbefore rfl
    obtain ⟨fs, hfs⟩ := answer_examines h s q _ (hqs q (by simp)) hphase
    rw [answerAll_append]
    exact ⟨fs, hfs.examined, hfs.errors⟩

/-- A type at the top level of no package, as a declaration and in annotations. -/
def plainType (name : Bytes) : TypeRef Bytes := ⟨name, ⟨.ok .concrete, name, name⟩, []⟩

def plainProvider (name : Bytes) (value : Value Bytes) : Element Bytes where
  decl := { kind := .ok .concrete, qualifiedName := name, simpleName := name,
            annots := [⟨"AutoService", [(valueElement, value)], none⟩] }
  outer := []
  token := some name
  text := name
  pos := none

/-- Requests of a host that complains about a text, an empty list and a pair it does not confirm, breaks
down on a declaration, breaks down on a round and then goes on. -/
def troubledRequests : List (Request Bytes) :=
  [.collect [plainProvider "p" (.text "A"), plainProvider "q" (.list []),
      plainProvider "r" (.list [.type (plainType "A"), .type (plainType "B")]),
      { plainProvider "s" (.type (plainType "B")) with decl := ⟨⟨.error "kind", "s", "s"⟩, []⟩ },
      plainProvider "t" (.type (plainType "B"))],
    .process ⟨.error "round", fun _ => .ok []⟩,
    .process (.of (.ok false) [plainProvider "u" (.type (plainType "A"))])]

theorem index_answerAll_troubled :
    let h := memoryHost { exact := [("r", "B"), ("t", "B")], raw := [("u", "A")] }
    let r := answerAll h .attentive { verify := true } troubledRequests { files := {} }
    (∀ q ∈ troubledRequests, q.Gathers) ∧ r.phase = .collecting ∧
      r.index.rows = [(Bytes.ofString "A", [Bytes.ofString "u"]), (Bytes.ofString "B", [Bytes.ofString "r"])] ∧
      r.errors.map (·.diagnostic.text) =
        ["FatalError: AutoService does not define an element value",
          "No service interfaces provided for element!",
          "ServiceProviders must implement their service provider interface. r does not implement A",
          "FatalError: panic: kind", "FatalError: panic: round"] := by
  intro h r
  have hqs : ∀ q ∈ troubledRequests, q.Gathers := by
    simp [troubledRequests, Request.Gathers, Round.of]
  obtain ⟨hphase, -, -⟩ := index_answerAll h { verify := true } {} troubledRequests hqs
  refine ⟨hqs, hphase, ?_, ?_⟩
  · decide +kernel
  · decide +kernel

end ServiceAnnotations.Registry
