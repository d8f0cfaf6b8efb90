import ServiceAnnotations.Registry.Registrar

/-! # Running the steps of a registrar

A step is known by what it gives and by the run it leaves behind; of the events, by the errors that
are reported, the files that are read and those that are opened for writing. What is told to an
attentive host is added to the run, and nothing else comes of it. -/
namespace ServiceAnnotations.Registry

variable {τ σ α β : Type}

/-- The error that an event reports, if it reports one. -/
def Event.error? : Event τ → Option (Message τ)
  | .message m => if m.diagnostic.severity = .error then some m else none
  | _ => none

def Event.reading? : Event τ → Option (Bytes × Option Reading)
  | .read path reading => some (path, reading)
  | _ => none

def Event.write? : Event τ → Option (Bytes × Option WriteFailure)
  | .wrote path failure => some (path, failure)
  | _ => none

namespace Run

def report (r : Run τ σ) (d : Diagnostic) (element : Option (Element τ)) (annot : Option (Annot τ)) :
    Run τ σ :=
  r.record (.message ⟨d, element, annot⟩)

def note (s : Settings) (d : Diagnostic) (r : Run τ σ) : Run τ σ :=
  let r := r.record (.logged d)
  if s.debug then r.report d none none else r

def tell (s : Settings) (d : Diagnostic) (r : Run τ σ) : Run τ σ :=
  if d.severity = .note then r.note s d else r.report d none none

/-- A run in which a failure is logged and reported. -/
def fatal (r : Run τ σ) (cause : Bytes) : Run τ σ :=
  (r.record (.loggedFailure cause)).report (.fatal cause) none none

/-- The run after a step to its end or its failure, which is reported. -/
def settle (step : Step τ σ Unit) (r : Run τ σ) : Run τ σ :=
  match step.run r with
  | (.ok (), r) => r
  | (.error f, r) => r.fatal f.message

/-- The errors reported so far. -/
def errors (r : Run τ σ) : List (Message τ) := r.events.filterMap Event.error?

/-- The files read so far, with what came of it unless the host broke down. -/
def readings (r : Run τ σ) : List (Bytes × Option Reading) := r.events.filterMap Event.reading?

def writes (r : Run τ σ) : List (Bytes × Option WriteFailure) := r.events.filterMap Event.write?

/-- The files opened for writing so far. -/
def opened (r : Run τ σ) : List Bytes := r.events.filterMap Event.opened?

variable (r : Run τ σ) (e : Event τ) (d : Diagnostic) (element : Option (Element τ))
  (annot : Option (Annot τ)) (s : Settings) (cause : Bytes)

@[simp] theorem phase_record : (r.record e).phase = r.phase := rfl
@[simp] theorem index_record : (r.record e).index = r.index := rfl
@[simp] theorem files_record : (r.record e).files = r.files := rfl

@[simp] theorem errors_record : (r.record e).errors = r.errors ++ e.error?.toList := by
  cases h : e.error? <;> simp [errors, record, h]

@[simp] theorem readings_record : (r.record e).readings = r.readings ++ e.reading?.toList := by
  cases h : e.reading? <;> simp [readings, record, h]

@[simp] theorem writes_record : (r.record e).writes = r.writes ++ e.write?.toList := by
  cases h : e.write? <;> simp [writes, record, h]

@[simp] theorem opened_record : (r.record e).opened = r.opened ++ e.opened?.toList := by
  cases h : e.opened? <;> simp [opened, record, h]

@[simp] theorem phase_report : (r.report d element annot).phase = r.phase := rfl
@[simp] theorem index_report : (r.report d element annot).index = r.index := rfl
@[simp] theorem files_report : (r.report d element annot).files = r.files := rfl

@[simp] theorem errors_report : (r.report d element annot).errors =
    r.errors ++ if d.severity = .error then [⟨d, element, annot⟩] else [] := by
  simp only [report, errors_record, Event.error?]
  split <;> rfl

@[simp] theorem readings_report : (r.report d element annot).readings = r.readings := by
  simp [report, Event.reading?]

@[simp] theorem writes_report : (r.report d element annot).writes = r.writes := by
  simp [report, Event.write?]

@[simp] theorem opened_report : (r.report d element annot).opened = r.opened := by
  simp [report, Event.opened?]

@[simp] theorem phase_note : (r.note s d).phase = r.phase := by
  unfold note; split <;> rfl

@[simp] theorem index_note : (r.note s d).index = r.index := by
  unfold note; split <;> rfl

@[simp] theorem files_note : (r.note s d).files = r.files := by
  unfold note; split <;> rfl

/-- A diagnostic below an error leaves no error behind, whether or not it is shown. -/
theorem errors_note (hd : d.severity ≠ .error) : (r.note s d).errors = r.errors := by
  unfold note; split <;> simp [Event.error?, hd]

@[simp] theorem readings_note : (r.note s d).readings = r.readings := by
  unfold note; split <;> simp [Event.reading?]

@[simp] theorem writes_note : (r.note s d).writes = r.writes := by
  unfold note; split <;> simp [Event.write?]

@[simp] theorem opened_note : (r.note s d).opened = r.opened := by
  unfold note; split <;> simp [Event.opened?]

@[simp] theorem phase_tell : (r.tell s d).phase = r.phase := by
  unfold tell; split <;> simp

@[simp] theorem index_tell : (r.tell s d).index = r.index := by
  unfold tell; split <;> simp

@[simp] theorem files_tell : (r.tell s d).files = r.files := by
  unfold tell; split <;> simp

theorem errors_tell (hd : d.severity ≠ .error) : (r.tell s d).errors = r.errors := by
  unfold tell; split <;> simp [hd, errors_note]

@[simp] theorem readings_tell : (r.tell s d).readings = r.readings := by
  unfold tell; split <;> simp

@[simp] theorem writes_tell : (r.tell s d).writes = r.writes := by
  unfold tell; split <;> simp

@[simp] theorem opened_tell : (r.tell s d).opened = r.opened := by
  unfold tell; split <;> simp

variable (phase : Phase) (files : σ) (interface provider : Bytes)

@[simp] theorem phase_setPhase : (r.setPhase phase).phase = phase := rfl
@[simp] theorem index_setPhase : (r.setPhase phase).index = r.index := rfl
@[simp] theorem files_setPhase : (r.setPhase phase).files = r.files := rfl
@[simp] theorem errors_setPhase : (r.setPhase phase).errors = r.errors := rfl
@[simp] theorem readings_setPhase : (r.setPhase phase).readings = r.readings := rfl
@[simp] theorem writes_setPhase : (r.setPhase phase).writes = r.writes := rfl
@[simp] theorem opened_setPhase : (r.setPhase phase).opened = r.opened := rfl

@[simp] theorem phase_setFiles : (r.setFiles files).phase = r.phase := rfl
@[simp] theorem index_setFiles : (r.setFiles files).index = r.index := rfl
@[simp] theorem files_setFiles : (r.setFiles files).files = files := rfl
@[simp] theorem errors_setFiles : (r.setFiles files).errors = r.errors := rfl
@[simp] theorem readings_setFiles : (r.setFiles files).readings = r.readings := rfl
@[simp] theorem writes_setFiles : (r.setFiles files).writes = r.writes := rfl
@[simp] theorem opened_setFiles : (r.setFiles files).opened = r.opened := rfl

@[simp] theorem phase_addProvider : (r.addProvider interface provider).phase = r.phase := rfl
@[simp] theorem index_addProvider :
    (r.addProvider interface provider).index = r.index.add interface provider := rfl
@[simp] theorem files_addProvider : (r.addProvider interface provider).files = r.files := rfl
@[simp] theorem errors_addProvider : (r.addProvider interface provider).errors = r.errors := rfl
@[simp] theorem readings_addProvider :
    (r.addProvider interface provider).readings = r.readings := rfl
@[simp] theorem opened_addProvider : (r.addProvider interface provider).opened = r.opened := rfl

@[simp] theorem phase_fatal : (r.fatal cause).phase = r.phase := rfl
@[simp] theorem index_fatal : (r.fatal cause).index = r.index := rfl
@[simp] theorem files_fatal : (r.fatal cause).files = r.files := rfl

@[simp] theorem errors_fatal : (r.fatal cause).errors = r.errors ++ [⟨.fatal cause, none, none⟩] := by
  simp [fatal, Event.error?, Diagnostic.severity]

@[simp] theorem readings_fatal : (r.fatal cause).readings = r.readings := by
  simp [fatal, Event.reading?]

@[simp] theorem writes_fatal : (r.fatal cause).writes = r.writes := by
  simp [fatal, Event.write?]

@[simp] theorem opened_fatal : (r.fatal cause).opened = r.opened := by
  simp [fatal, Event.opened?]

theorem opened_eq_writes :
    r.opened = r.writes.filterMap fun w => (Event.wrote w.1 w.2 : Event τ).opened? := by
  rw [opened, writes, List.filterMap_filterMap]
  refine congrArg (List.filterMap · r.events) (funext fun e => ?_)
  cases e <;> rfl

theorem settle_of_ok {step : Step τ σ Unit} {r r' : Run τ σ} (hrun : step.run r = (.ok (), r')) :
    r.settle step = r' := by
  rw [settle, hrun]

theorem settle_of_error {step : Step τ σ Unit} {r r' : Run τ σ} {f : Failure}
    (hrun : step.run r = (.error f, r')) : r.settle step = r'.fatal f.message := by
  rw [settle, hrun]

end Run

namespace Step

@[simp] theorem run_pure (a : α) (r : Run τ σ) : (pure a : Step τ σ α).run r = (.ok a, r) := rfl

@[simp] theorem run_modify (f : Run τ σ → Run τ σ) (r : Run τ σ) :
    (modify f : Step τ σ Unit).run r = (.ok (), f r) := rfl

@[simp] theorem run_throw (f : Failure) (r : Run τ σ) :
    (throw f : Step τ σ α).run r = (.error f, r) := rfl

private theorem run_bind (x : Step τ σ α) (k : α → Step τ σ β) (r : Run τ σ) :
    (x >>= k).run r = (StateT.bind x.run (ExceptT.bindCont k) r : Except Failure β × Run τ σ) := rfl

theorem run_bind_ok {x : Step τ σ α} {a : α} {r r' : Run τ σ} (h : x.run r = (.ok a, r'))
    (k : α → Step τ σ β) : (x >>= k).run r = (k a).run r' := by
  rw [run_bind, StateT.bind]
  simp only [h]
  rfl

theorem run_bind_error {x : Step τ σ α} {f : Failure} {r r' : Run τ σ} (h : x.run r = (.error f, r'))
    (k : α → Step τ σ β) : (x >>= k).run r = (.error f, r') := by
  rw [run_bind, StateT.bind]
  simp only [h]
  rfl

@[simp] theorem run_modify_bind (f : Run τ σ → Run τ σ) (k : Unit → Step τ σ β) (r : Run τ σ) :
    ((modify f : Step τ σ Unit) >>= k).run r = (k ()).run (f r) := rfl

theorem settle_modify_bind (f : Run τ σ → Run τ σ) (k : Unit → Step τ σ Unit) (r : Run τ σ) :
    r.settle (modify f >>= k) = (f r).settle (k ()) := rfl

@[simp] theorem run_callHost (call : σ → α × σ) (r : Run τ σ) :
    (callHost call : Step τ σ α).run r = (.ok (call r.files).1, r.setFiles (call r.files).2) := rfl

@[simp] theorem run_callHost_bind (call : σ → α × σ) (k : α → Step τ σ β) (r : Run τ σ) :
    (callHost call >>= k).run r = (k (call r.files).1).run (r.setFiles (call r.files).2) := rfl

@[simp] theorem orBroken_ok (a : α) : (orBroken (.ok a) : Step τ σ α) = pure a := rfl

@[simp] theorem orBroken_error (cause : Bytes) :
    (orBroken (.error cause) : Step τ σ α) = throw (.broken cause) := rfl

@[simp] theorem run_orBroken (x : Except Bytes α) (r : Run τ σ) :
    (orBroken x : Step τ σ α).run r = (x.mapError Failure.broken, r) := by
  cases x <;> rfl

/-- A question leaves nothing behind but itself, and what the host makes of it. -/
@[simp] theorem run_ask (q : Query τ) (call : σ → Except Failure Bool × σ) (r : Run τ σ) :
    (ask q call).run r =
      ((call r.files).1, (r.record (.asked q)).setFiles (call r.files).2) := by
  simp only [ask, run_modify_bind, run_callHost_bind, Run.files_record]
  cases (call r.files).1 <;> rfl

theorem run_ask_bind (q : Query τ) (call : σ → Except Failure Bool × σ) (k : Bool → Step τ σ β)
    (r : Run τ σ) :
    (ask q call >>= k).run r =
      match (call r.files).1 with
      | .ok a => (k a).run ((r.record (.asked q)).setFiles (call r.files).2)
      | .error f => (.error f, (r.record (.asked q)).setFiles (call r.files).2) := by
  cases h : (call r.files).1 with
  | ok a => exact run_bind_ok ((run_ask q call r).trans (by rw [h])) k
  | error f => exact run_bind_error ((run_ask q call r).trans (by rw [h])) k

@[simp] theorem run_get_bind (k : Run τ σ → Step τ σ β) (r : Run τ σ) :
    ((get : Step τ σ (Run τ σ)) >>= k).run r = (k r).run r := rfl

@[simp] theorem run_lift_bind (x : Step τ σ α) (k : Except Failure α → Step τ σ β) (r : Run τ σ) :
    ((ExceptT.lift x.run : Step τ σ (Except Failure α)) >>= k).run r = (k (x.run r).1).run (x.run r).2 := rfl

theorem run_bind_pure (x : Step τ σ α) (g : α → β) (r : Run τ σ) :
    (x >>= fun a => pure (g a) : Step τ σ β).run r = ((x.run r).1.map g, (x.run r).2) := by
  rcases hx : x.run r with ⟨f | a, r'⟩
  · exact run_bind_error hx _
  · exact run_bind_ok hx _

theorem run_say (l : Listener τ σ) (e : Event τ) (r : Run τ σ) :
    (say l e).run r =
      (match (l e r.files).1 with
        | none => .ok ()
        | some cause => .error (.broken cause), (r.record e).setFiles (l e r.files).2) := by
  rw [say, run_modify_bind, run_callHost_bind, Run.files_record]
  cases (l e r.files).1 <;> rfl

section
variable (h : Host τ σ) (l : Listener τ σ) (s : Settings) {r : Run τ σ}

theorem run_guarded (step : Step τ σ Unit) (r : Run τ σ) :
    (guarded l step).run r = match step.run r with
      | (.ok (), r) => (.ok (), r)
      | (.error f, r) => (fatal l f.message).run r := by
  have hcatch : (guarded l step).run r = (ExceptT.tryCatch step fun f => fatal l f.message).run r := rfl
  have hbind (k : Except Failure Unit → StateM (Run τ σ) (Except Failure Unit)) :
      (step.run >>= k).run r = (k (step.run r).1).run (step.run r).2 := rfl
  rw [hcatch, ExceptT.tryCatch, ExceptT.run_mk]
  refine (hbind _).trans ?_
  rcases step.run r with ⟨f | _, r'⟩ <;> rfl

/-- What is done under guard depends on how the step ended. -/
theorem guarded_eq_lift (step : Step τ σ Unit) :
    guarded l step = ExceptT.lift step.run >>= fun outcome => guarded l (liftM outcome) := by
  funext r
  change (guarded l step).run r = ExceptT.run (ExceptT.lift step.run >>= _) r
  rw [run_lift_bind, run_guarded, run_guarded]
  rcases step.run r with ⟨f | _, r'⟩ <;> rfl

theorem run_collect (elements : List (Element τ)) (hr : r.phase = .collecting) :
    (collect h l s elements).run r = match (guarded l (collectElements h l s elements)).run r with
      | (.ok (), r) => (.ok none, r)
      | (.error f, r) => (.error f, r) := by
  rw [collect, run_get_bind, if_pos hr]
  rcases hrun : (guarded l (collectElements h l s elements)).run r with ⟨f | _, r'⟩
  · exact run_bind_error hrun _
  · exact run_bind_ok hrun _

theorem run_collect_refused (elements : List (Element τ)) (hr : r.phase ≠ .collecting) :
    (collect h l s elements).run r = (.ok (some ⟨.collect, r.phase⟩), r) := by
  rw [collect, run_get_bind, if_neg hr, run_pure]

theorem run_emit (hr : r.phase = .collecting) :
    (emit h l s).run r = match (guarded l (emitRows h l s r.index.rows)).run (r.setPhase .emitting) with
      | (.ok (), r) => (.ok none, r.setPhase .done)
      | (.error f, r) => (.error f, r.setPhase .done) := by
  rw [emit, run_get_bind, if_pos hr, run_modify_bind, run_lift_bind, run_modify_bind]
  rcases (guarded l (emitRows h l s r.index.rows)).run (r.setPhase .emitting) with ⟨f | _, r'⟩
  · rfl
  · rfl

theorem run_emit_refused (hr : r.phase ≠ .collecting) :
    (emit h l s).run r = (.ok (some ⟨.emit, r.phase⟩), r) := by
  rw [emit, run_get_bind, if_neg hr, run_pure]

variable {round : Round τ}

theorem takeRound_broken {cause : Bytes} (hlast : round.isLast = .error cause) :
    takeRound h l s round = throw (.broken cause) := by
  rw [takeRound, hlast]
  rfl

theorem takeRound_last (hlast : round.isLast = .ok true) :
    takeRound h l s round = emit h l s >>= allowed := by
  rw [takeRound, hlast]
  rfl

theorem takeRound_unshown {cause : Bytes} (hlast : round.isLast = .ok false)
    (hshown : round.annotated s.annotName = .error cause) :
    takeRound h l s round = (do note l s (.round s.annotName); throw (.broken cause)) := by
  rw [takeRound, hlast, hshown]
  rfl

theorem takeRound_shown {shown : List (Element τ)} (hlast : round.isLast = .ok false)
    (hshown : round.annotated s.annotName = .ok shown) :
    takeRound h l s round = (do note l s (.round s.annotName); collect h l s shown >>= allowed) := by
  rw [takeRound, hlast, hshown]
  rfl

end

@[simp] theorem say_attentive (e : Event τ) : (say .attentive e : Step τ σ Unit) = modify (·.record e) :=
  rfl

@[simp] theorem report_attentive (d : Diagnostic) (element : Option (Element τ)) (annot : Option (Annot τ)) :
    (report .attentive d element annot : Step τ σ Unit) = modify (·.report d element annot) := rfl

@[simp] theorem note_attentive (s : Settings) (d : Diagnostic) :
    (note .attentive s d : Step τ σ Unit) = modify (·.note s d) := by
  unfold note Run.note
  cases s.debug <;> rfl

@[simp] theorem tell_attentive (s : Settings) (d : Diagnostic) :
    (tell .attentive s d : Step τ σ Unit) = modify (·.tell s d) := by
  unfold tell Run.tell
  by_cases hd : d.severity = .note
  · simp [hd]
  · simp [hd]

@[simp] theorem fatal_attentive (cause : Bytes) :
    (fatal .attentive cause : Step τ σ Unit) = modify (·.fatal cause) := rfl

@[simp] theorem run_guarded_attentive (step : Step τ σ Unit) (r : Run τ σ) :
    (guarded .attentive step).run r = (.ok (), r.settle step) := by
  rw [run_guarded, Run.settle]
  rcases step.run r with ⟨f | _, r'⟩ <;> rfl

section
variable (h : Host τ σ) (s : Settings) {r : Run τ σ}

theorem run_collect_attentive (elements : List (Element τ)) (hr : r.phase = .collecting) :
    (collect h .attentive s elements).run r = (.ok none, r.settle (collectElements h .attentive s elements)) := by
  rw [run_collect h .attentive s elements hr, run_guarded_attentive]

theorem run_emit_attentive (hr : r.phase = .collecting) :
    (emit h .attentive s).run r =
      (.ok none, ((r.setPhase .emitting).settle (emitRows h .attentive s r.index.rows)).setPhase .done) := by
  rw [run_emit h .attentive s hr, run_guarded_attentive]

theorem run_processRound_attentive (round : Round τ) (r : Run τ σ) :
    (processRound h .attentive s round).run r = (.ok (), r.settle (takeRound h .attentive s round)) :=
  run_guarded_attentive _ r

end

end Step

section
variable (h : Host τ σ) (l : Listener τ σ) (s : Settings) (r : Run τ σ)

theorem handle_run_process (round : Round τ) :
    (handle h l s (.process round)).run r =
      (((processRound h l s round).run r).1.map fun _ => .claimed, ((processRound h l s round).run r).2) :=
  Step.run_bind_pure _ _ r

theorem handle_run_collect (elements : List (Element τ)) :
    (handle h l s (.collect elements)).run r =
      (((collect h l s elements).run r).1.map .ofCall, ((collect h l s elements).run r).2) :=
  Step.run_bind_pure _ _ r

theorem handle_run_emit :
    (handle h l s .emit).run r = (((emit h l s).run r).1.map .ofCall, ((emit h l s).run r).2) :=
  Step.run_bind_pure _ _ r

theorem answer_process (round : Round τ) :
    answer h l s r (.process round) = ((processRound h l s round).run r).2 := by
  rw [answer, handle_run_process]

theorem answer_collect (elements : List (Element τ)) :
    answer h l s r (.collect elements) = ((collect h l s elements).run r).2 := by
  rw [answer, handle_run_collect]

theorem answer_emit : answer h l s r .emit = ((emit h l s).run r).2 := by
  rw [answer, handle_run_emit]

variable {h s r}

/-- The last round of a host that takes what it is told makes a registrar emit. -/
theorem answer_last {last : Round τ} {r' : Run τ σ} (hlast : last.isLast = .ok true)
    (hemit : (emit h .attentive s).run r = (.ok none, r')) : answer h .attentive s r (.process last) = r' := by
  have htake : (takeRound h .attentive s last).run r = (.ok (), r') := by
    rw [Step.takeRound_last h .attentive s hlast, Step.run_bind_ok hemit]
    rfl
  rw [answer_process, Step.run_processRound_attentive, Run.settle_of_ok htake]

end
end ServiceAnnotations.Registry
