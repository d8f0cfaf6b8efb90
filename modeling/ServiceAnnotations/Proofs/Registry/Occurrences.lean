import ServiceAnnotations.Proofs.Registry.Collection

/-! # The first annotation of a type

An annotation may be repeated on a declaration. A registrar goes by the first provider annotation on a class:
unless the host fails, everything that one says is recorded or complained about, and nothing else is. -/
namespace ServiceAnnotations.Registry

variable {τ σ : Type}

/-- Whether an annotation is the first of its type in a list, a type by name. -/
def IsFirst (annots : List (Annot τ)) (type : Bytes) (annot : Annot τ) : Prop :=
  ∃ before after, annots = before ++ annot :: after ∧ annot.type = type ∧ ∀ b ∈ before, b.type ≠ type

theorem findAnnot_eq_some_iff {annots : List (Annot τ)} {type : Bytes} {annot : Annot τ} :
    findAnnot annots type = some annot ↔ IsFirst annots type annot := by
  simp only [findAnnot, List.find?_eq_some_iff_append, decide_eq_true_eq, Bool.not_eq_eq_eq_not,
    Bool.not_true, decide_eq_false_iff_not, IsFirst]
  constructor
  · rintro ⟨htype, before, after, rfl, hbefore⟩
    exact ⟨before, after, rfl, htype, hbefore⟩
  · rintro ⟨before, after, rfl, htype, hbefore⟩
    exact ⟨htype, before, after, rfl, hbefore⟩

/-- The offers of a provider annotation on a class that declares a type. -/
def Annot.offers (annot : Annot τ) (e : Element τ) (provider : TypeRef τ) : List (Offer τ) :=
  match annot.interfaces? with
  | none => [.malformed e annot]
  | some [] => [.empty e annot]
  | some interfaces => interfaces.map (.pair e provider annot)

/-- The place that an offer is about, unless the host breaks down. -/
def Offer.place? : Offer τ → Option (Element τ × Annot τ)
  | broken _ => none
  | malformed e annot | empty e annot | pair e _ annot _ => some (e, annot)

theorem Annot.place?_of_mem_offers {annot : Annot τ} {e : Element τ} {provider : TypeRef τ} {o : Offer τ}
    (ho : o ∈ annot.offers e provider) : o.place? = some (e, annot) := by
  unfold Annot.offers at ho
  split at ho
  · rw [List.mem_singleton.mp ho, Offer.place?]
  · rw [List.mem_singleton.mp ho, Offer.place?]
  · obtain ⟨interface, -, rfl⟩ := List.mem_map.mp ho
    rfl

theorem Element.mem_offers_iff {s : Settings} {e : Element τ} {o : Offer τ} :
    o ∈ e.offers s ↔ (∃ cause, e.decl.kind = .error cause ∧ o = .broken cause) ∨
      e.decl.kind = .ok .concrete ∧ ∃ provider annot, e.typeRef? = some provider ∧
        IsFirst e.annots s.annotName annot ∧ o ∈ annot.offers e provider := by
  simp only [← findAnnot_eq_some_iff]
  unfold Element.offers
  cases hkind : e.decl.kind with
  | error cause => simp
  | ok kind =>
    by_cases hconcrete : kind = .concrete
    · subst hconcrete
      cases e.typeRef? <;> cases findAnnot e.annots s.annotName <;> simp
      rfl
    · simp [hconcrete]

/-- A pair is recorded by its names or complained about, unless the host fails. -/
theorem Offer.finding_pair (h : Host τ σ) (s : Settings) (files : σ) (e : Element τ) (provider : TypeRef τ)
    (annot : Annot τ) (interface : TypeRef τ) {f : Finding τ}
    (hf : ((Offer.pair e provider annot interface).finding h s files).1 = f) :
    (∃ c, f = .failed c) ∨
      f = .complaint ⟨.notImplemented provider.frame.qualifiedName interface.frame.qualifiedName, some e,
        some annot⟩ ∨
      ∃ i p, f = .recorded i p ∧ interface.binaryName = .ok i ∧ provider.binaryName = .ok p := by
  subst hf
  simp only [Offer.finding]
  rcases h.confirms s.verify provider.token interface.token files with ⟨c | _ | _, files₁⟩
  · exact .inl ⟨c, rfl⟩
  · exact .inr (.inl rfl)
  · rcases interface.binaryName with cause | i
    · exact .inl ⟨.broken cause, rfl⟩
    · rcases provider.binaryName with cause | p
      · exact .inl ⟨.broken cause, rfl⟩
      · exact .inr (.inr ⟨i, p, rfl, rfl, rfl⟩)

/-- An error about a declaration is about the place that the offer is about. -/
theorem Offer.error?_finding {h : Host τ σ} {s : Settings} {files : σ} {o : Offer τ} {m : Message τ}
    {e : Element τ} (hm : (o.finding h s files).1.error? = some m) (he : m.element = some e) :
    ∃ annot, o.place? = some (e, annot) ∧ m.annot = some annot := by
  cases o with
  | broken cause =>
    obtain rfl := Option.some.inj hm
    cases he
  | malformed e' annot | empty e' annot =>
    obtain rfl := Option.some.inj hm
    cases he
    exact ⟨annot, rfl, rfl⟩
  | pair e' provider annot interface =>
    rcases Offer.finding_pair h s files e' provider annot interface rfl with ⟨c, hf⟩ | hf | ⟨i, p, hf, -, -⟩
    · rw [hf] at hm
      obtain rfl := Option.some.inj hm
      cases he
    · rw [hf] at hm
      obtain rfl := Option.some.inj hm
      cases he
      exact ⟨annot, rfl, rfl⟩
    · rw [hf] at hm
      cases hm

/-- As long as the host does not fail, something comes of every offer. -/
theorem Examined.exists_finding {h : Host τ σ} {s : Settings} {files files' : σ} {os : List (Offer τ)}
    {fs : List (Finding τ)} (hex : Examined h s files os fs files') (hok : ∀ f ∈ fs, f.outcome = .ok ())
    {o : Offer τ} (ho : o ∈ os) : ∃ files₁, (o.finding h s files₁).1 ∈ fs := by
  induction hex with
  | done files => cases ho
  | @next files files₁ files₂ o' os f fs now goesOn later ih =>
    rcases List.mem_cons.mp ho with rfl | ho
    · exact ⟨files, by simp [now]⟩
    · obtain ⟨files₃, hin⟩ := ih (fun f hf => hok f (List.mem_cons_of_mem _ hf)) ho
      exact ⟨files₃, List.mem_cons_of_mem _ hin⟩
  | stop now => simp [Finding.outcome] at hok

/-- Whether everything that a provider annotation on a class says is recorded in an index or the subject of an
error: every interface it names, or else that it names none, or anything but types. -/
def Annot.Heeded (annot : Annot τ) (e : Element τ) (provider : TypeRef τ) (idx : Index)
    (errors : List (Message τ)) : Prop :=
  match annot.interfaces? with
  | none => ⟨.malformed ⟨annot.type, valueElement⟩, some e, some annot⟩ ∈ errors
  | some [] => ⟨.noInterfaces, some e, some annot⟩ ∈ errors
  | some interfaces => ∀ interface ∈ interfaces,
    (∃ i p, interface.binaryName = .ok i ∧ provider.binaryName = .ok p ∧ idx.Lists i p) ∨
      ⟨.notImplemented provider.frame.qualifiedName interface.frame.qualifiedName, some e, some annot⟩ ∈ errors

/-- A pair of names that an annotation on a class names: an interface, and the class as its provider. -/
def Annot.Names (annot : Annot τ) (provider : TypeRef τ) (i p : Bytes) : Prop :=
  ∃ interfaces, annot.interfaces? = some interfaces ∧ ∃ interface ∈ interfaces,
    interface.binaryName = .ok i ∧ provider.binaryName = .ok p

/-- An annotation is heeded if something comes of each of its offers and the host does not fail. -/
theorem Annot.heeded_of_findings {h : Host τ σ} {s : Settings} {annot : Annot τ} {e : Element τ}
    {provider : TypeRef τ} {idx : Index} {errors : List (Message τ)} {fs : List (Finding τ)}
    (hok : ∀ f ∈ fs, f.outcome = .ok ()) (hidx : ∀ i p, .recorded i p ∈ fs → idx.Lists i p)
    (herrors : ∀ m, .complaint m ∈ fs → m ∈ errors)
    (hfs : ∀ o ∈ annot.offers e provider, ∃ files, (o.finding h s files).1 ∈ fs) :
    annot.Heeded e provider idx errors := by
  unfold Annot.offers at hfs
  unfold Annot.Heeded
  split
  · simp only [*, List.mem_singleton, forall_eq] at hfs
    obtain ⟨files, hf⟩ := hfs
    exact herrors _ hf
  · simp only [*, List.mem_singleton, forall_eq] at hfs
    obtain ⟨files, hf⟩ := hfs
    exact herrors _ hf
  · rename_i interfaces hne hi
    intro interface hin
    have hpair : ∃ files, ((Offer.pair e provider annot interface).finding h s files).1 ∈ fs := by
      simp only [hi] at hfs
      exact hfs _ (List.mem_map_of_mem hin)
    obtain ⟨files, hin⟩ := hpair
    rcases Offer.finding_pair h s files e provider annot interface rfl with ⟨c, hf⟩ | hf | ⟨i, p, hf, hi, hp⟩
    · rw [hf] at hin
      cases hok _ hin
    · exact .inr (herrors _ (hf ▸ hin))
    · exact .inl ⟨i, p, hi, hp, hidx i p (hf ▸ hin)⟩

/-- A collecting registrar takes the first provider annotation on a class for all there is. Unless the host
fails, each thing that one says is recorded or the subject of an error; and what is recorded, or said of a
declaration, comes from the first annotation. -/
theorem first_annotation_heeded (h : Host τ σ) (s : Settings) (q : Request τ) (r : Run τ σ)
    (hq : q.Gathers) (hphase : r.phase = .collecting) :
    ∃ new, (answer h .attentive s r q).errors = r.errors ++ new ∧ ∀ shown, q.shown s = .ok shown →
      ((∀ m ∈ new, ∀ cause, m.diagnostic ≠ .fatal cause) →
        ∀ e ∈ shown, e.decl.kind = .ok .concrete → ∀ provider, e.typeRef? = some provider →
          ∀ annot, IsFirst e.annots s.annotName annot →
            annot.Heeded e provider (answer h .attentive s r q).index new) ∧
      (∀ i p, (answer h .attentive s r q).index.Lists i p → r.index.Lists i p ∨
        ∃ e ∈ shown, ∃ provider annot, e.typeRef? = some provider ∧
          IsFirst e.annots s.annotName annot ∧ annot.Names provider i p) ∧
      ∀ m ∈ new, ∀ e, m.element = some e →
        e ∈ shown ∧ ∃ annot, m.annot = some annot ∧ IsFirst e.annots s.annotName annot := by
  obtain ⟨fs, hfs⟩ := answer_examines h s q r hq hphase
  refine ⟨_, hfs.errors, fun shown hshown => ?_⟩
  have hoffers : q.offers s = shown.flatMap (·.offers s) := by simp only [Request.offers, hshown]
  have hex := hoffers ▸ hfs.examined
  refine ⟨fun hnofatal e he hkind provider ht annot ha => ?_, fun i p hlists => ?_, fun m hm e he => ?_⟩
  · have hok : ∀ f ∈ fs, f.outcome = .ok () := by
      intro f hf
      cases f with
      | failed c =>
        exact absurd rfl (hnofatal _ (List.mem_filterMap.mpr ⟨_, hf, rfl⟩) c.message)
      | _ => rfl
    refine Annot.heeded_of_findings (h := h) (s := s) hok (fun i p hin => ?_) (fun m hin => ?_)
      (fun o ho => ?_)
    · rw [hfs.index]
      exact lists_foldl_addTo.mpr (.inr hin)
    · exact List.mem_filterMap.mpr ⟨_, hin, rfl⟩
    · refine hex.exists_finding hok (List.mem_flatMap.mpr ⟨e, he, ?_⟩)
      exact Element.mem_offers_iff.mpr (.inr ⟨hkind, provider, annot, ht, ha, ho⟩)
  · refine ((lists_answer h s q r hq hphase i p).mp hlists).imp_right ?_
    rintro ⟨shown', hshown', es₁, e, es₂, provider, annot, is₁, interface, is₂, -, -, hsplit, -, ht, ha, hi,
      -, -, -, hin, hpn⟩
    obtain rfl : shown = shown' := Except.ok.inj (hshown.symm.trans hshown')
    exact ⟨e, by simp [hsplit], provider, annot, ht, findAnnot_eq_some_iff.mp ha, _, hi, interface, by simp,
      hin, hpn⟩
  · obtain ⟨f, hf, herror⟩ := List.mem_filterMap.mp hm
    obtain ⟨os₁, o, os₂, -, files₁, hos, -, -, rfl⟩ := (hex.mem_iff f).mp hf
    obtain ⟨annot, hplace, hannot⟩ := o.error?_finding herror he
    obtain ⟨x, hx, ho⟩ := List.mem_flatMap.mp (hos ▸ List.mem_append_right os₁ List.mem_cons_self)
    rcases Element.mem_offers_iff.mp ho with ⟨cause, -, rfl⟩ | ⟨-, provider, annot', -, ha, ho⟩
    · cases hplace
    · rw [Annot.place?_of_mem_offers ho, Option.some.injEq, Prod.mk.injEq] at hplace
      obtain ⟨rfl, rfl⟩ := hplace
      exact ⟨hx, annot', hannot, ha⟩

/-- A class with two provider annotations, each with a value of its own. -/
def twiceAnnotated (name : Bytes) (first second : Value Bytes) : Element Bytes :=
  let once := plainProvider name first
  { once with decl.annots := once.decl.annots ++ (plainProvider name second).decl.annots }

/-- The first annotation of `q` names no types, the one of `r` an interface that the host does not confirm. -/
theorem first_annotation_heeded_twice :
    let h := memoryHost { exact := [("r", "A")] }
    let shown := [twiceAnnotated "q" (.text "A") (.type (plainType "B")),
      plainProvider "r" (.list [.type (plainType "A"), .type (plainType "B")])]
    let q := Request.process (.of (.ok false) shown)
    let r := answer h .attentive { verify := true } { files := {} } q
    q.Gathers ∧ r.index.rows = [(Bytes.ofString "A", [Bytes.ofString "r"])] ∧
      r.errors.map (·.diagnostic) = [.malformed ⟨"AutoService", valueElement⟩, .notImplemented "r" "B"] ∧
      ∀ e ∈ shown, ∃ provider annot, e.typeRef? = some provider ∧ IsFirst e.annots "AutoService" annot ∧
        annot.Heeded e provider r.index r.errors := by
  intro h shown q r
  have hq : q.Gathers := by simp [q, Request.Gathers, Round.of]
  have herrors : r.errors.map (·.diagnostic) =
      [.malformed ⟨"AutoService", valueElement⟩, .notImplemented "r" "B"] := by decide +kernel
  obtain ⟨new, hnew, hall⟩ := first_annotation_heeded h { verify := true } q { files := {} } hq rfl
  obtain rfl : r.errors = new := hnew
  have hnofatal : ∀ m ∈ r.errors, ∀ cause, m.diagnostic ≠ .fatal cause := by
    intro m hm cause hfatal
    have hin : .fatal cause ∈ r.errors.map (·.diagnostic) := List.mem_map.mpr ⟨m, hm, hfatal⟩
    simp [herrors] at hin
  obtain ⟨hheeded, -, -⟩ := hall shown rfl
  refine ⟨hq, by decide +kernel, herrors, fun e he => ?_⟩
  have hclass : e.decl.kind = .ok .concrete ∧ ∃ provider annot, e.typeRef? = some provider ∧
      findAnnot e.annots "AutoService" = some annot := by
    simp only [shown, List.mem_cons, List.not_mem_nil, or_false] at he
    rcases he with rfl | rfl
    · exact ⟨rfl, _, _, rfl, rfl⟩
    · exact ⟨rfl, _, _, rfl, rfl⟩
  obtain ⟨hkind, provider, annot, ht, ha⟩ := hclass
  have hfirst := findAnnot_eq_some_iff.mp ha
  exact ⟨provider, annot, ht, hfirst, hheeded hnofatal e he hkind provider ht annot hfirst⟩

/-- An interface that only the second annotation on a class names is neither recorded nor complained about. -/
theorem second_annotation_ignored :
    let e := twiceAnnotated "p" (.type (plainType "A")) (.type (plainType "B"))
    let r := answer (memoryHost {}) .attentive {} { files := {} } (.process (.of (.ok false) [e]))
    e.annots.map (·.type) = ["AutoService", "AutoService"] ∧
      r.index.rows = [(Bytes.ofString "A", [Bytes.ofString "p"])] ∧ r.errors.length = 0 := by
  decide +kernel

end ServiceAnnotations.Registry
