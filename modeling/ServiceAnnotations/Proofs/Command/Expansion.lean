import ServiceAnnotations.Proofs.Command.Flags

/-! # Options that are written together with their flag

Such options are taken apart before flags are read. Nobody knows at that point which arguments are flags and which
are values of flags or stand behind all flags, so that arguments may be changed that should be taken as they are. -/
namespace ServiceAnnotations.Command

def joined? : Bytes → Option Bytes
  | 0x2d :: 0x41 :: c :: cs => if c = 0x3d then none else some (c :: cs)
  | _ => none

/-- What an argument means where a flag is expected, if options may be written together with their flag. -/
def meaningJoined (arg : Bytes) : Meaning :=
  match joined? arg with
  | some option => .sets .option option
  | none => meaningOf arg

/-- Whether no argument is changed that is taken as it is, a value or one behind the flags. Expansion ends at two
dashes, even if they are a value; `isOn` tells whether it still goes on. -/
def isSpared : (isOn : Bool) → List Bytes → Bool
  | _, [] => true
  | isOn, arg :: rest =>
    if (joined? arg).isSome then isOn && isSpared isOn rest
    else match meaningOf arg, rest with
      | .other, rest => !isOn || expandArgs rest = rest
      | .sets _ _, rest => isSpared isOn rest
      | .awaits _, value :: rest =>
        (!isOn || (joined? value).isNone) && isSpared (isOn && value ≠ Bytes.ofString "--") rest
      | _, _ => true

def expandedIf (isOn : Bool) (args : List Bytes) : List Bytes := if isOn then expandArgs args else args

theorem exists_of_joined? {arg option : Bytes} (h : joined? arg = some option) :
    ∃ c cs, option = c :: cs ∧ c ≠ 0x3d ∧ arg = 0x2d :: 0x41 :: option := by
  unfold joined? at h
  split at h
  · rename_i c cs
    split at h
    · cases h
    · rename_i hc
      obtain rfl := Option.some.inj h
      exact ⟨c, cs, rfl, hc, rfl⟩
  · cases h

theorem expandArgs_cons (arg : Bytes) (rest : List Bytes) :
    expandArgs (arg :: rest) =
      if arg = Bytes.ofString "--" then arg :: rest
      else match joined? arg with
        | some option => Bytes.ofString "-A" :: option :: expandArgs rest
        | none => arg :: expandArgs rest := by
  conv => lhs; unfold expandArgs
  by_cases hdashes : arg = Bytes.ofString "--"
  · rw [if_pos hdashes, if_pos hdashes]
  · rw [if_neg hdashes, if_neg hdashes]
    split
    · rw [joined?]
      split <;> rfl
    · rename_i hnone
      rw [joined?.eq_2 arg hnone]

theorem joined?_dashes : joined? (Bytes.ofString "--") = none := rfl

theorem meaningOf_dashes : meaningOf (Bytes.ofString "--") = .dashes := rfl

theorem meaningOf_flag : meaningOf (Bytes.ofString "-A") = .awaits .option := rfl

theorem eq_dashes_of_meaningOf {arg : Bytes} (h : meaningOf arg = .dashes) : arg = Bytes.ofString "--" := by
  apply Decidable.byContradiction
  intro hdashes
  rw [meaningOf, if_neg hdashes] at h
  unfold meaningOfSpec at h
  grind

theorem name_of_head? {f : Flag} (h : (Bytes.ofString f.name).head? = some 0x41) : Bytes.ofString f.name = [0x41] := by
  revert h
  cases f <;> decide

/-- A flag that is written together with an option is unknown. -/
theorem meaningOf_joined {arg option : Bytes} (h : joined? arg = some option) :
    ∃ name, meaningOf arg = .refused (.undefined name) := by
  obtain ⟨c, cs, rfl, hc, rfl⟩ := exists_of_joined? h
  have hname : (0x41 :: c :: cs).takeWhile (· != 0x3d) = 0x41 :: c :: cs.takeWhile (· != 0x3d) := by
    simp [hc]
  have hnone : (Flag.all.find? fun f => Bytes.ofString f.name = 0x41 :: c :: cs.takeWhile (· != 0x3d)) = none := by
    rw [List.find?_eq_none]
    intro f _ heq
    have heq := of_decide_eq_true heq
    have hlone := name_of_head? (by rw [heq]; rfl)
    rw [heq] at hlone
    cases hlone
  refine ⟨0x41 :: c :: cs.takeWhile (· != 0x3d), ?_⟩
  have hdashes : Bytes.ofString "--" = [0x2d, 0x2d] := rfl
  have hhelp : Bytes.ofString "help" = [0x68, 0x65, 0x6c, 0x70] := rfl
  have hh : Bytes.ofString "h" = [0x68] := rfl
  simp [meaningOf, meaningOfSpec, flagName?, hdashes, hhelp, hh, hname, hnone]

theorem after_inj {g g' : Given} {f : Flag} {value value' : Bytes} :
    g.after f value = g'.after f value' ↔ value = value' ∧ g = g' := by
  obtain ⟨flags, ending⟩ := g
  obtain ⟨flags', ending'⟩ := g'
  simp [Given.after, and_assoc]

theorem meaningJoined_some {arg option : Bytes} (h : joined? arg = some option) :
    meaningJoined arg = .sets .option option := by
  rw [meaningJoined, h]

theorem meaningJoined_none {arg : Bytes} (h : joined? arg = none) : meaningJoined arg = meaningOf arg := by
  rw [meaningJoined, h]

/-- An argument is left as it is unless an option is joined to it. -/
theorem expandedIf_cons {isOn : Bool} {arg : Bytes} (rest : List Bytes) (h : isOn = true → joined? arg = none) :
    expandedIf isOn (arg :: rest) = arg :: expandedIf (isOn && arg ≠ Bytes.ofString "--") rest := by
  cases isOn with
  | false => rfl
  | true =>
    rw [expandedIf, if_pos rfl, expandArgs_cons, h rfl]
    by_cases hdashes : arg = Bytes.ofString "--"
    · simp [hdashes, expandedIf]
    · simp [hdashes, expandedIf]

theorem expandedIf_cons_of_meaning {arg : Bytes} (isOn : Bool) (rest : List Bytes) (harg : joined? arg = none)
    (h : meaningOf arg ≠ .dashes) : expandedIf isOn (arg :: rest) = arg :: expandedIf isOn rest := by
  have hdashes : arg ≠ Bytes.ofString "--" := by
    intro hdashes
    rw [hdashes] at h
    exact h meaningOf_dashes
  rw [expandedIf_cons rest fun _ => harg]
  simp [hdashes]

theorem expandedIf_joined {arg option : Bytes} (rest : List Bytes) (h : joined? arg = some option) :
    expandedIf true (arg :: rest) = Bytes.ofString "-A" :: option :: expandedIf true rest := by
  have hdashes : arg ≠ Bytes.ofString "--" := by
    intro hdashes
    rw [hdashes, joined?_dashes] at h
    cases h
  simp only [expandedIf, if_true, expandArgs_cons, hdashes, if_false, h]

theorem expandedIf_eq_self_iff (isOn : Bool) (args : List Bytes) :
    expandedIf isOn args = args ↔ isOn = false ∨ expandArgs args = args := by
  cases isOn <;> simp [expandedIf]

theorem givenBy_joined_iff {isOn : Bool} {arg option : Bytes} {rest : List Bytes} (h : joined? arg = some option)
    (ih : givenBy meaningOf (expandedIf isOn rest) = givenBy meaningJoined rest ↔ isSpared isOn rest = true) :
    givenBy meaningOf (expandedIf isOn (arg :: rest)) = givenBy meaningJoined (arg :: rest) ↔
      (isOn && isSpared isOn rest) = true := by
  cases isOn with
  | true =>
    rw [expandedIf_joined rest h, givenBy_awaits meaningOf_flag, givenBy_sets (meaningJoined_some h), after_inj, ih]
    simp
  | false =>
    obtain ⟨name, hrefused⟩ := meaningOf_joined h
    have hoff : expandedIf false (arg :: rest) = arg :: rest := rfl
    rw [hoff, givenBy_sets (meaningJoined_some h), givenBy_cons, hrefused]
    simp [Given.after]

/-- A value is taken as it is exactly if no option is joined to it, or if nothing is expanded any more. -/
theorem givenBy_awaits_iff {isOn : Bool} {arg value : Bytes} {rest : List Bytes} {f : Flag}
    (harg : joined? arg = none) (h : meaningOf arg = .awaits f)
    (ih : givenBy meaningOf (expandedIf (isOn && value ≠ Bytes.ofString "--") rest) = givenBy meaningJoined rest ↔
      isSpared (isOn && value ≠ Bytes.ofString "--") rest = true) :
    givenBy meaningOf (expandedIf isOn (arg :: value :: rest)) = givenBy meaningJoined (arg :: value :: rest) ↔
      ((!isOn || (joined? value).isNone) && isSpared (isOn && value ≠ Bytes.ofString "--") rest) = true := by
  rw [expandedIf_cons_of_meaning isOn _ harg (by simp [h])]
  by_cases hvalue : isOn = true → joined? value = none
  · rw [expandedIf_cons _ hvalue, givenBy_awaits h, givenBy_awaits ((meaningJoined_none harg).trans h), after_inj, ih]
    cases isOn with
    | false => simp
    | true => simp [hvalue rfl]
  · rw [Classical.not_imp] at hvalue
    obtain ⟨rfl, hsome⟩ := hvalue
    obtain ⟨option, hoption⟩ := Option.ne_none_iff_exists'.mp hsome
    obtain ⟨c, cs, rfl, -, rfl⟩ := exists_of_joined? hoption
    rw [expandedIf_joined rest hoption, givenBy_awaits h, givenBy_awaits ((meaningJoined_none harg).trans h),
      after_inj]
    have hflag : Bytes.ofString "-A" = [0x2d, 0x41] := rfl
    simp [hoption, hflag]

/-- Expanded arguments give what they should exactly if all arguments are spared that are taken as they are. -/
theorem givenBy_expandedIf_iff (isOn : Bool) (args : List Bytes) :
    givenBy meaningOf (expandedIf isOn args) = givenBy meaningJoined args ↔ isSpared isOn args = true := by
  -- along the cases of what is spared: an option with its flag, what ends the flags, values, and anything else
  fun_induction isSpared isOn args with
  | case1 isOn => cases isOn <;> simp [expandedIf, expandArgs, givenBy]
  | case2 isOn arg rest hsome ih =>
    obtain ⟨option, hoption⟩ := Option.isSome_iff_exists.mp hsome
    exact givenBy_joined_iff hoption ih
  | case3 isOn arg hnone rest h =>
    have harg := Option.not_isSome_iff_eq_none.mp hnone
    rw [expandedIf_cons_of_meaning isOn rest harg (by simp [h]), givenBy_cons, givenBy_cons,
      meaningJoined_none harg, h]
    simp [expandedIf_eq_self_iff]
  | case4 isOn arg hnone f value rest h ih =>
    have harg := Option.not_isSome_iff_eq_none.mp hnone
    rw [expandedIf_cons_of_meaning isOn rest harg (by simp [h]), givenBy_sets h,
      givenBy_sets ((meaningJoined_none harg).trans h), after_inj, ih]
    simp
  | case5 isOn arg hnone f value rest h ih => exact givenBy_awaits_iff (Option.not_isSome_iff_eq_none.mp hnone) h ih
  | case6 isOn arg rest hnone hother hsets hawaits =>
    have harg := Option.not_isSome_iff_eq_none.mp hnone
    simp only [iff_true]
    rw [expandedIf_cons rest fun _ => harg, givenBy_cons, givenBy_cons, meaningJoined_none harg]
    cases h : meaningOf arg with
    | dashes =>
      simp [eq_dashes_of_meaningOf h, expandedIf]
    | other => exact absurd h hother
    | sets f value => exact absurd h (hsets f value)
    | awaits f =>
      cases rest with
      | nil => simp [expandedIf, expandArgs]
      | cons value rest => exact absurd rfl (hawaits f value rest h)
    | help => rfl
    | refused e => rfl

/-- Expansion gives the flags and arguments that it should, unless it changes an argument that is taken as it is;
arguments are then read as if options could be written together with their flag. -/
theorem expanded_args_parsed (args : List Bytes) :
    (givenBy meaningOf (expandArgs args) = givenBy meaningJoined args ↔ isSpared true args = true) ∧
      (isSpared true args = true → parseFlags {} (expandArgs args) = (givenBy meaningJoined args).parsed {}) := by
  have hiff : givenBy meaningOf (expandArgs args) = givenBy meaningJoined args ↔ isSpared true args = true :=
    givenBy_expandedIf_iff true args
  refine ⟨hiff, fun hspared => ?_⟩
  rw [parseFlags_eq (expandArgs args) rfl, hiff.mpr hspared]

theorem expanded_args_parsed_verify :
    let args := ["-Averify", "-output_dir", "out", "-A", "debug", "./..."].map Bytes.ofString
    isSpared true args = true ∧ (givenBy meaningJoined args).flags =
        [(.option, Bytes.ofString "verify"), (.outputDir, Bytes.ofString "out"), (.option, Bytes.ofString "debug")] ∧
      parseFlags {} (expandArgs args) = (givenBy meaningJoined args).parsed {} := by
  intro args
  have hspared : isSpared true args = true := by decide
  exact ⟨hspared, by decide, (expanded_args_parsed args).2 hspared⟩

/-- Behind other arguments, an argument that looks like an option is changed although it is taken as it is. -/
theorem arg_changed_behind_flags :
    let args := ["./...", "-Averify"].map Bytes.ofString
    (∃ r, (givenBy meaningJoined args).parsed {} = .request r ∧ r.rest = args) ∧
      ∃ r, parseFlags {} (expandArgs args) = .request r ∧ r.rest = ["./...", "-A", "verify"].map Bytes.ofString :=
  ⟨⟨_, rfl, rfl⟩, ⟨_, rfl, rfl⟩⟩

end ServiceAnnotations.Command
