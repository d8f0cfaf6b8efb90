import ServiceAnnotations.Proofs.Registry.Step

/-! # Collecting as one loop over offers

The declarations of a round are flattened into the offers they make, in the order in which the
registrar comes to them. A host that fails on an offer ends the loop. -/
namespace ServiceAnnotations.Registry

variable {τ σ : Type}

inductive Offer (τ : Type)
  /-- The host breaks down when asked about a declaration. -/
  | broken (cause : Bytes)
  | malformed (e : Element τ) (annot : Annot τ)
  | empty (e : Element τ) (annot : Annot τ)
  | pair (e : Element τ) (provider : TypeRef τ) (annot : Annot τ) (interface : TypeRef τ)

/-- The offers of a declaration. Only classes that declare a type make any. -/
def Element.offers (s : Settings) (e : Element τ) : List (Offer τ) :=
  match e.decl.kind with
  | .error cause => [.broken cause]
  | .ok kind =>
    if kind ≠ .concrete then []
    else match e.typeRef?, findAnnot e.annots s.annotName with
      | some provider, some annot =>
        match annot.interfaces? with
        | none => [.malformed e annot]
        | some [] => [.empty e annot]
        | some interfaces => interfaces.map (.pair e provider annot)
      | _, _ => []

/-- What becomes of an offer. -/
inductive Finding (τ : Type)
  | recorded (interface provider : Bytes)
  | complaint (m : Message τ)
  | failed (f : Failure)

namespace Finding

/-- The error that a finding is reported as, if it is one. -/
def error? : Finding τ → Option (Message τ)
  | recorded _ _ => none
  | complaint m => some m
  | failed f => some ⟨.fatal f.message, none, none⟩

def ofNames : (interface provider : Except Bytes Bytes) → Finding τ
  | .ok i, .ok p => recorded i p
  | .error cause, _ | .ok _, .error cause => failed (.broken cause)

def complaint? : Finding τ → Option (Message τ)
  | complaint m => some m
  | _ => none

def addTo (idx : Index) : Finding τ → Index
  | recorded i p => idx.add i p
  | _ => idx

/-- How a finding lets the loop go on. -/
def outcome : Finding τ → Except Failure Unit
  | failed f => .error f
  | _ => .ok ()

theorem failed_or_goes_on (f : Finding τ) :
    (∃ c, f = failed c) ∨ f.outcome = .ok () ∧ f.error? = f.complaint? := by
  cases f with
  | failed c => exact .inl ⟨c, rfl⟩
  | _ => exact .inr ⟨rfl, rfl⟩

end Finding

/-- Whether a host confirms that a type conforms to an interface, or to some instance of it. Nothing
is asked unless types are checked, and the second question only when the first is denied. -/
def Host.confirms (h : Host τ σ) (verify : Bool) (provider interface : τ) (files : σ) :
    Except Failure Bool × σ :=
  if !verify then (.ok true, files)
  else match h.isSubtype provider interface files with
    | (.ok false, files) => h.isErasedSubtype provider interface files
    | answer => answer

def Offer.finding (h : Host τ σ) (s : Settings) (files : σ) : Offer τ → Finding τ × σ
  | broken cause => (.failed (.broken cause), files)
  | malformed e annot => (.complaint ⟨.malformed ⟨annot.type, valueElement⟩, some e, some annot⟩, files)
  | empty e annot => (.complaint ⟨.noInterfaces, some e, some annot⟩, files)
  | pair e provider annot interface =>
    match h.confirms s.verify provider.token interface.token files with
    | (.error f, files) => (.failed f, files)
    | (.ok false, files) =>
      (.complaint ⟨.notImplemented provider.frame.qualifiedName interface.frame.qualifiedName,
        some e, some annot⟩, files)
    | (.ok true, files) => (.ofNames interface.binaryName provider.binaryName, files)

def takeOffer (h : Host τ σ) (s : Settings) : Offer τ → Step τ σ Unit
  | .broken cause => throw (.broken cause)
  | .malformed e annot =>
    modify (·.report (.malformed ⟨annot.type, valueElement⟩) (some e) (some annot))
  | .empty e annot => modify (·.report .noInterfaces (some e) (some annot))
  | .pair e provider annot interface => do
    modify (·.note s (.providerInterface interface.frame.qualifiedName))
    modify (·.note s (.providerImplementer provider.frame.qualifiedName))
    match ← check h .attentive s.suppressName (lastPart s.annotName) s.verify e provider.token interface
        (some annot) with
    | .reject =>
      modify (·.report (.notImplemented provider.frame.qualifiedName interface.frame.qualifiedName)
        (some e) (some annot))
    | _ =>
      let interfaceName ← orBroken interface.binaryName
      let providerName ← orBroken provider.binaryName
      modify (·.addProvider interfaceName providerName)

def takeOffers (h : Host τ σ) (s : Settings) : List (Offer τ) → Step τ σ Unit
  | [] => pure ()
  | o :: rest => do
    takeOffer h s o
    takeOffers h s rest

theorem takeOffers_append (h : Host τ σ) (s : Settings) (os os' : List (Offer τ)) :
    takeOffers h s (os ++ os') = (do takeOffers h s os; takeOffers h s os') := by
  induction os with
  | nil => simp [takeOffers]
  | cons o os ih => simp [takeOffers, ih]

theorem collectInterfaces_eq_takeOffers (h : Host τ σ) (s : Settings) (e : Element τ)
    (provider : TypeRef τ) (annot : Annot τ) (interfaces : List (TypeRef τ)) :
    collectInterfaces h .attentive s e provider annot interfaces =
      takeOffers h s (interfaces.map (.pair e provider annot)) := by
  induction interfaces with
  | nil => rfl
  | cons interface rest ih =>
    simp only [collectInterfaces, Step.note_attentive, Step.report_attentive, List.map_cons, takeOffers, takeOffer, ih,
      bind_assoc]
    congr; funext _; congr; funext _; congr; funext verdict
    cases verdict <;> simp

theorem collectElement_eq_takeOffers (h : Host τ σ) (s : Settings) (e : Element τ) :
    collectElement h .attentive s e = takeOffers h s (e.offers s) := by
  unfold collectElement Element.offers
  cases hkind : e.decl.kind with
  | error cause => simp [takeOffers, takeOffer]
  | ok kind =>
    by_cases hc : kind = .concrete
    · simp only [Step.orBroken_ok, pure_bind, hc, ne_eq, not_true_eq_false, if_false]
      cases e.typeRef? with
      | none => rfl
      | some provider =>
        cases findAnnot e.annots s.annotName with
        | none => rfl
        | some annot =>
          rcases hi : annot.interfaces? with _ | _ | ⟨interface, rest⟩
          · simp [hi, takeOffers, takeOffer]
          · simp [hi, takeOffers, takeOffer]
          · simp only [hi]
            exact collectInterfaces_eq_takeOffers ..
    · simp [hc, takeOffers]

theorem collectElements_eq_takeOffers (h : Host τ σ) (s : Settings) (es : List (Element τ)) :
    collectElements h .attentive s es = takeOffers h s (es.flatMap (·.offers s)) := by
  induction es with
  | nil => rfl
  | cons e es ih =>
    rw [collectElements, collectElement_eq_takeOffers, ih, List.flatMap_cons, takeOffers_append]

/-- A check asks what it has to and gives a verdict that accepts exactly what the host confirms. It
leaves nothing behind but warnings. -/
theorem check_run (h : Host τ σ) (suppressName shownName : Bytes) (verify : Bool) (e : Element τ)
    (token : τ) (interface : TypeRef τ) (annot : Option (Annot τ)) (r : Run τ σ) :
    ∃ verdict r', (check h .attentive suppressName shownName verify e token interface annot).run r = (verdict, r') ∧
      verdict.map (· != .reject) = (h.confirms verify token interface.token r.files).1 ∧
      r'.phase = r.phase ∧ r'.files = (h.confirms verify token interface.token r.files).2 ∧
      r'.index = r.index ∧ r'.errors = r.errors ∧ r'.opened = r.opened := by
  cases verify with
  | false => exact ⟨.ok .ok, r, rfl, rfl, rfl, rfl, rfl, rfl, rfl⟩
  | true =>
    simp only [check, Step.report_attentive, Host.confirms, Bool.not_true, Bool.false_eq_true, if_false,
      Step.run_ask_bind]
    rcases h.isSubtype token interface.token r.files with ⟨_ | _ | _, files⟩
    · exact ⟨_, _, rfl, rfl, rfl, rfl, rfl, by simp [Event.error?], by simp [Event.opened?]⟩
    · simp only [Run.files_setFiles, Step.run_ask_bind, Bool.false_eq_true, if_false]
      rcases h.isErasedSubtype token interface.token files with ⟨_ | _ | _, files'⟩
      · exact ⟨_, _, rfl, rfl, rfl, rfl, rfl, by simp [Event.error?], by simp [Event.opened?]⟩
      · exact ⟨_, _, rfl, rfl, rfl, rfl, rfl, by simp [Event.error?], by simp [Event.opened?]⟩
      · by_cases hs : e.suppressesRawTypes suppressName = true
        · simp only [hs, if_true]
          exact ⟨_, _, rfl, rfl, rfl, rfl, rfl, by simp [Event.error?], by simp [Event.opened?]⟩
        · simp only [hs, Bool.false_eq_true, if_false]
          exact ⟨_, _, rfl, rfl, rfl, rfl, rfl, by simp [Event.error?, Diagnostic.severity],
            by simp [Event.opened?]⟩
    · exact ⟨_, _, rfl, rfl, rfl, rfl, rfl, by simp [Event.error?], by simp [Event.opened?]⟩

/-- What a finding leaves behind, apart from notes and warnings. A failure is reported when it ends
the call, not before. -/
structure Run.Takes (r : Run τ σ) (f : Finding τ) (files : σ) (r' : Run τ σ) : Prop where
  phase : r'.phase = r.phase
  files : r'.files = files
  index : r'.index = f.addTo r.index
  errors : r'.errors = r.errors ++ f.complaint?.toList
  opened : r'.opened = r.opened

/-- The names of a pair go into the index, unless the host breaks down when it is asked for them. -/
private theorem addNames_run (interface provider : Except Bytes Bytes) (r : Run τ σ) :
    ∃ r', (do let interfaceName ← orBroken interface
              let providerName ← orBroken provider
              modify (·.addProvider interfaceName providerName) : Step τ σ Unit).run r =
        ((Finding.ofNames (τ := τ) interface provider).outcome, r') ∧
      r.Takes (Finding.ofNames interface provider) r.files r' := by
  rcases interface with cause | i
  · exact ⟨r, rfl, rfl, rfl, rfl, (List.append_nil _).symm, rfl⟩
  · rcases provider with cause | p
    · exact ⟨r, rfl, rfl, rfl, rfl, (List.append_nil _).symm, rfl⟩
    · exact ⟨r.addProvider i p, rfl, rfl, rfl, rfl, (List.append_nil _).symm, rfl⟩

theorem takeOffer_run (h : Host τ σ) (s : Settings) (o : Offer τ) (r : Run τ σ) :
    ∃ r', (takeOffer h s o).run r = ((o.finding h s r.files).1.outcome, r') ∧
      r.Takes (o.finding h s r.files).1 (o.finding h s r.files).2 r' := by
  cases o with
  | broken cause => exact ⟨r, rfl, rfl, rfl, rfl, (List.append_nil _).symm, rfl⟩
  | malformed e annot => exact ⟨_, rfl, rfl, rfl, rfl, Run.errors_report .., Run.opened_report ..⟩
  | empty e annot => exact ⟨_, rfl, rfl, rfl, rfl, Run.errors_report .., Run.opened_report ..⟩
  | pair e provider annot interface =>
    let r₁ := (r.note s (.providerInterface interface.frame.qualifiedName)).note s
      (.providerImplementer provider.frame.qualifiedName)
    have hfiles : r₁.files = r.files := by simp [r₁]
    have herrors : r₁.errors = r.errors := by
      rw [Run.errors_note _ _ _ (by simp [Diagnostic.severity]),
        Run.errors_note _ _ _ (by simp [Diagnostic.severity])]
    obtain ⟨verdict, r₂, hrun, hverdict, hphase₂, hfiles₂, hindex₂, herrors₂, hopened₂⟩ :=
      check_run h s.suppressName (lastPart s.annotName) s.verify e provider.token interface (some annot) r₁
    rw [hfiles] at hverdict hfiles₂
    have hphase : r₂.phase = r.phase := by simp [hphase₂, r₁]
    have hindex : r₂.index = r.index := by simp [hindex₂, r₁]
    have hopened : r₂.opened = r.opened := by simp [hopened₂, r₁]
    simp only [takeOffer, Step.run_modify_bind, Offer.finding]
    rcases hc : h.confirms s.verify provider.token interface.token r.files with ⟨answer, files⟩
    rw [hc] at hverdict hfiles₂
    rcases verdict with f | verdict
    · obtain rfl : answer = .error f := hverdict.symm
      refine ⟨r₂, Step.run_bind_error hrun _, hphase, hfiles₂, hindex, ?_, hopened⟩
      simp [herrors₂, herrors, Finding.complaint?]
    · rw [Step.run_bind_ok hrun]
      cases verdict with
      | reject =>
        obtain rfl : answer = .ok false := hverdict.symm
        refine ⟨_, rfl, hphase, hfiles₂, hindex, ?_, by simp [hopened]⟩
        simp [herrors₂, herrors, Diagnostic.severity, Finding.complaint?]
      | _ =>
        obtain rfl : answer = .ok true := hverdict.symm
        obtain ⟨r₃, hrun₃, hr₃⟩ := addNames_run interface.binaryName provider.binaryName r₂
        exact ⟨r₃, hrun₃, hr₃.phase.trans hphase, hr₃.files.trans hfiles₂, hindex ▸ hr₃.index,
          (herrors₂.trans herrors) ▸ hr₃.errors, hr₃.opened.trans hopened⟩

/-- What becomes of offers, one after another. A failure of the host is the last finding. -/
inductive Examined (h : Host τ σ) (s : Settings) : σ → List (Offer τ) → List (Finding τ) → σ → Prop
  | done (files : σ) : Examined h s files [] [] files
  | next {files files₁ files₂ : σ} {o : Offer τ} {os : List (Offer τ)} {f : Finding τ}
      {fs : List (Finding τ)} (now : o.finding h s files = (f, files₁)) (goesOn : f.outcome = .ok ())
      (later : Examined h s files₁ os fs files₂) : Examined h s files (o :: os) (f :: fs) files₂
  | stop {files files₁ : σ} {o : Offer τ} {os : List (Offer τ)} {c : Failure}
      (now : o.finding h s files = (.failed c, files₁)) :
      Examined h s files (o :: os) [.failed c] files₁

structure Run.Examines (h : Host τ σ) (s : Settings) (r : Run τ σ) (os : List (Offer τ))
    (fs : List (Finding τ)) (r' : Run τ σ) : Prop where
  examined : Examined h s r.files os fs r'.files
  phase : r'.phase = r.phase
  index : r'.index = fs.foldl Finding.addTo r.index
  errors : r'.errors = r.errors ++ fs.filterMap Finding.error?
  opened : r'.opened = r.opened

/-- A loop over offers leaves behind what becomes of them. -/
theorem settle_takeOffers (h : Host τ σ) (s : Settings) (os : List (Offer τ)) (r : Run τ σ) :
    ∃ fs, r.Examines h s os fs (r.settle (takeOffers h s os)) := by
  induction os generalizing r with
  | nil => exact ⟨[], .done r.files, rfl, rfl, (List.append_nil _).symm, rfl⟩
  | cons o os ih =>
    obtain ⟨r₁, hrun, hphase₁, hfiles₁, hindex₁, herrors₁, hopened₁⟩ := takeOffer_run h s o r
    obtain ⟨f, files₁, hf⟩ : ∃ f files₁, o.finding h s r.files = (f, files₁) := ⟨_, _, rfl⟩
    rw [hf] at hrun hfiles₁ hindex₁ herrors₁
    obtain rfl : r₁.files = files₁ := hfiles₁
    rcases f.failed_or_goes_on with ⟨c, rfl⟩ | ⟨hok, herror⟩
    · have hstop : r.settle (takeOffers h s (o :: os)) = r₁.fatal c.message := by
        simp only [Run.settle, takeOffers, Step.run_bind_error hrun]
      rw [hstop]
      refine ⟨[.failed c], .stop hf, hphase₁, hindex₁, ?_, by simp [hopened₁]⟩
      simp [herrors₁, Finding.complaint?, Finding.error?]
    · have hgoesOn : r.settle (takeOffers h s (o :: os)) = r₁.settle (takeOffers h s os) := by
        simp only [Run.settle, takeOffers, Step.run_bind_ok (hok ▸ hrun)]
      obtain ⟨fs, hfs, hphase, hindex, herrors, hopened⟩ := ih r₁
      rw [hgoesOn]
      refine ⟨f :: fs, .next hf hok hfs, hphase.trans hphase₁, ?_, ?_, hopened.trans hopened₁⟩
      · rw [hindex, hindex₁, List.foldl_cons]
      · rw [herrors, herrors₁, List.append_assoc, ← herror]
        cases hf : f.error? <;> simp [hf]

/-- A finding is made on an offer before which the host does not fail. -/
theorem Examined.mem_iff {h : Host τ σ} {s : Settings} {files files' : σ} {os : List (Offer τ)}
    {fs : List (Finding τ)} (hex : Examined h s files os fs files') (f : Finding τ) :
    f ∈ fs ↔ ∃ os₁ o os₂ fs₁ files₁, os = os₁ ++ o :: os₂ ∧ Examined h s files os₁ fs₁ files₁ ∧
      (∀ g ∈ fs₁, g.outcome = .ok ()) ∧ (o.finding h s files₁).1 = f := by
  induction hex with
  | done files => simp
  | @next files files₁ files₂ o os g gs now goesOn later ih =>
    constructor
    · intro hf
      rcases List.mem_cons.mp hf with rfl | hf
      · exact ⟨[], o, os, [], files, rfl, .done files, by simp, by rw [now]⟩
      · obtain ⟨os₁, o', os₂, fs₁, files', rfl, hex', hok, ho'⟩ := ih.mp hf
        refine ⟨o :: os₁, o', os₂, g :: fs₁, files', rfl, .next now goesOn hex', ?_, ho'⟩
        simpa [goesOn] using hok
    · rintro ⟨os₁, o', os₂, fs₁, files', hos, hex', hok, ho'⟩
      cases hex' with
      | done =>
        obtain ⟨rfl, rfl⟩ : o = o' ∧ os = os₂ := by simpa using hos
        rw [now] at ho'
        exact List.mem_cons.mpr (.inl ho'.symm)
      | @next _ files₁' _ o₁ os₁ g' gs' now' goesOn' later' =>
        obtain ⟨rfl, rfl⟩ : o = o₁ ∧ os = os₁ ++ o' :: os₂ := by simpa using hos
        obtain ⟨rfl, rfl⟩ : g = g' ∧ files₁ = files₁' := by simpa [now] using now'
        refine List.mem_cons.mpr (.inr (ih.mpr ⟨os₁, o', os₂, gs', files', rfl, later', ?_, ho'⟩))
        exact fun x hx => hok x (List.mem_cons_of_mem _ hx)
      | stop => simp [Finding.outcome] at hok
  | @stop files files₁ o os c now =>
    constructor
    · intro hf
      obtain rfl := List.mem_singleton.mp hf
      exact ⟨[], o, os, [], files, rfl, .done files, by simp, by rw [now]⟩
    · rintro ⟨os₁, o', os₂, fs₁, files', hos, hex', hok, ho'⟩
      cases hex' with
      | done =>
        obtain ⟨rfl, rfl⟩ : o = o' ∧ os = os₂ := by simpa using hos
        rw [now] at ho'
        exact List.mem_singleton.mpr ho'.symm
      | next now' goesOn' =>
        obtain ⟨rfl, -⟩ : o = _ ∧ _ := by simpa using hos
        rw [now] at now'
        obtain ⟨rfl, -⟩ := Prod.mk.inj now'
        simp [Finding.outcome] at goesOn'
      | stop => simp [Finding.outcome] at hok

end ServiceAnnotations.Registry
