import Mathlib.Data.List.Forall2
import ServiceAnnotations.Elements.Value
import ServiceAnnotations.Proofs.Mark.Relocation
import ServiceAnnotations.Proofs.Mark.Soundness

/-! # Values without keys are shorthand

Values without keys say the same as a list of them under the key of the main value. Either way the annotation has the
same type, names the same types and holds the same texts, or cannot be understood for the same reason. -/
namespace ServiceAnnotations

namespace Registry

variable {τ : Type}

namespace Value

/-- The parts of a value that are no lists, from left to right. -/
def leaves : Value τ → List (Value τ)
  | list items => leavesOf items
  | v => [v]
where
  leavesOf : List (Value τ) → List (Value τ)
    | [] => []
    | v :: vs => leaves v ++ leavesOf vs

mutual

/-- A value names types when its leaves are types, and then it names these. -/
theorem types?_eq_some_iff : ∀ (v : Value τ) (ts : List (TypeRef τ)),
    v.types? = some ts ↔ v.leaves = ts.map .type
  | .type t, ts => by
    rcases ts with _ | ⟨u, _ | ⟨w, ts⟩⟩ <;> simp [types?, leaves]
  | .text b, ts => by
    cases ts <;> simp [types?, leaves]
  | .nothing, ts => by
    cases ts <;> simp [types?, leaves]
  | .list items, ts => typesOf_eq_some_iff items ts

theorem typesOf_eq_some_iff : ∀ (vs : List (Value τ)) (ts : List (TypeRef τ)),
    types?.typesOf vs = some ts ↔ leaves.leavesOf vs = ts.map .type
  | [], ts => by cases ts <;> simp [types?.typesOf, leaves.leavesOf]
  | v :: vs, ts => by
    have hbind : types?.typesOf (v :: vs) = some ts ↔
        ∃ us, v.types? = some us ∧ ∃ ws, types?.typesOf vs = some ws ∧ us ++ ws = ts := by
      simp [types?.typesOf, Option.bind_eq_some_iff]
    rw [hbind, leaves.leavesOf]
    constructor
    · rintro ⟨us, hus, ws, hws, rfl⟩
      rw [(types?_eq_some_iff v us).mp hus, (typesOf_eq_some_iff vs ws).mp hws, List.map_append]
    · intro h
      obtain ⟨us, ws, rfl, hus, hws⟩ := List.append_eq_map_iff.mp h
      exact ⟨us, (types?_eq_some_iff v us).mpr hus.symm, ws, (typesOf_eq_some_iff vs ws).mpr hws.symm, rfl⟩

end

theorem types?_singleton (v : Value τ) : (list [v]).types? = v.types? := by
  simp [types?, types?.typesOf]

theorem texts_singleton (v : Value τ) : (list [v]).texts = v.texts := by
  simp [texts, texts.textsOf]

end Value
end Registry

namespace Elements
open Registry Source ServiceAnnotations.Types

/-- The result, or the message of the error. -/
def outcome {α : Type} : Except Misuse α → Except String α
  | .ok a => .ok a
  | .error e => .error e.error.message

variable {α β : Type}

theorem outcome_bind (x : Except Misuse α) (f : α → Except Misuse β) :
    outcome (x >>= f) = outcome x >>= fun a => outcome (f a) := by
  cases x <;> rfl

theorem outcome_map (f : α → β) (x : Except Misuse α) : outcome (x.map f) = (outcome x).map f := by
  cases x <;> rfl

/-- Readings with one outcome give one result, or errors with one message. -/
theorem outcome_cases {x y : Except Misuse α} (h : outcome x = outcome y) :
    (∃ e e', x = .error e ∧ y = .error e' ∧ e.error.message = e'.error.message) ∨ ∃ a, x = .ok a ∧ y = .ok a := by
  cases x with
  | error e =>
    cases y with
    | error e' => exact .inl ⟨e, e', rfl, rfl, Except.error.inj h⟩
    | ok b => cases h
  | ok a =>
    cases y with
    | error e' => cases h
    | ok b => exact .inr ⟨a, rfl, congrArg _ (Except.ok.inj h).symm⟩

namespace Site

section
variable {p : Program} {scope : Scope} (lines lines' : LineMap) (φ : Mark.Position → Mark.Position)

theorem outcome_findImport? (pos pos' : Mark.Position) (name : String) (found : Option String)
    (imports : List Import) :
    outcome (findImport? ⟨p, scope, lines⟩ pos name found imports) =
      outcome (findImport? ⟨p, scope, lines'⟩ pos' name found imports) := by
  induction imports generalizing found with
  | nil => rfl
  | cons i rest ih =>
    have hname : importName ⟨p, scope, lines'⟩ i = importName ⟨p, scope, lines⟩ i := rfl
    unfold findImport?
    rw [hname]
    split
    · exact ih found
    · cases found with
      | none => exact ih _
      | some path =>
        simp only
        split
        · rfl
        · exact ih _

theorem outcome_packageOf (r : Mark.Reference) :
    outcome (packageOf ⟨p, scope, lines⟩ r) = outcome (packageOf ⟨p, scope, lines'⟩ (r.mapPos φ)) := by
  obtain ⟨package, name, pos⟩ := r
  cases package with
  | none => rfl
  | some qualifier =>
    simp only [packageOf, Mark.Reference.mapPos, outcome_bind]
    rw [outcome_findImport? lines lines' pos (φ pos)]
    refine congrArg _ (funext fun path => ?_)
    cases path with
    | some path => rfl
    | none =>
      simp only
      split <;> rfl

theorem outcome_typeNamed (r : Mark.Reference) :
    outcome (typeNamed ⟨p, scope, lines⟩ r) = outcome (typeNamed ⟨p, scope, lines'⟩ (r.mapPos φ)) := by
  obtain ⟨package, name, pos⟩ := r
  cases package with
  | none =>
    simp only [typeNamed, Mark.Reference.mapPos, outcome_bind]
    refine congrArg _ (funext fun meaning => ?_)
    split <;> rfl
  | some qualifier =>
    simp only [typeNamed, Mark.Reference.mapPos, outcome_bind]
    rw [outcome_findImport? lines lines' pos (φ pos)]
    refine congrArg _ (funext fun path => ?_)
    cases path with
    | none => rfl
    | some path =>
      simp only [outcome_bind]
      refine congrArg _ (funext fun meaning => ?_)
      split <;> rfl

mutual

/-- A value is read alike wherever its parts stand. -/
theorem outcome_value : ∀ e : Mark.Expr,
    outcome (value ⟨p, scope, lines⟩ e) = outcome (value ⟨p, scope, lines'⟩ (e.mapPos φ))
  | .literal (.text _) _ | .literal (.bool _) _ | .literal (.int _) _ | .literal .unknown _ => rfl
  | .ref r => by
    rw [value, Mark.Expr.mapPos, value, outcome_map, outcome_map, outcome_typeNamed lines lines' φ r]
  | .list items pos => by
    rw [value, Mark.Expr.mapPos, value, outcome_map, outcome_map, outcome_listed items]

theorem outcome_listed : ∀ items : List Mark.Item,
    outcome (listed ⟨p, scope, lines⟩ items) = outcome (listed ⟨p, scope, lines'⟩ (Mark.Item.mapPosAll φ items))
  | [] => rfl
  | .mk (some key) e :: rest => rfl
  | .mk none e :: rest => by
    rw [Mark.Item.mapPosAll, Mark.Item.mapPos, Option.map_none, listed, listed]
    simp only [outcome_bind]
    rw [outcome_value e, outcome_listed rest]

end

/-- Values apart from their places determine what comes of them. -/
theorem outcome_listed_eq {es es' : List Mark.Expr} (h : es.map Mark.Expr.unplaced = es'.map Mark.Expr.unplaced) :
    outcome (listed ⟨p, scope, lines⟩ (es.map (.mk none))) =
      outcome (listed ⟨p, scope, lines'⟩ (es'.map (.mk none))) := by
  have hitems : ∀ ds : List Mark.Expr, Mark.Item.mapPosAll (fun _ => .start) (ds.map (.mk none)) =
      (ds.map Mark.Expr.unplaced).map (.mk none) := by
    intro ds
    induction ds with
    | nil => rfl
    | cons d ds ih => simp only [List.map_cons, Mark.Item.mapPosAll, ih]; rfl
  rw [outcome_listed lines lines' fun _ => .start, outcome_listed lines' lines' (fun _ => .start) (es'.map _), hitems,
    hitems, h]

end

variable {s : Site}

theorem listed_eq_ok_iff {es : List Mark.Expr} {vs : List (Value TypeName)} :
    s.listed (es.map (.mk none)) = .ok vs ↔ List.Forall₂ (fun e v => s.value e = .ok v) es vs := by
  induction es generalizing vs with
  | nil => simp [listed, eq_comm]
  | cons e es ih =>
    rw [List.map_cons, listed, List.forall₂_cons_left_iff]
    constructor
    · intro h
      obtain ⟨v, hv, hrest⟩ := bind_eq_ok_iff.mp h
      obtain ⟨ws, hws, hvs⟩ := bind_eq_ok_iff.mp hrest
      exact ⟨v, ws, hv, ih.mp hws, (Except.ok.inj hvs).symm⟩
    · rintro ⟨v, ws, hv, hws, rfl⟩
      rw [hv, ih.mpr hws]
      rfl

/-- Values without keys are read from left to right. -/
theorem arguments_unkeyed (keyed : List (Bytes × Value TypeName)) (unkeyed : List (Value TypeName))
    (es : List Mark.Expr) :
    s.arguments keyed unkeyed (es.map (.mk none)) =
      (s.listed (es.map (.mk none))).map fun vs => (keyed, unkeyed ++ vs) := by
  induction es generalizing unkeyed with
  | nil => simp [arguments, listed, Except.map]
  | cons e es ih =>
    rw [List.map_cons, arguments, listed]
    cases s.value e with
    | error err => rfl
    | ok v =>
      refine (ih (unkeyed ++ [v])).trans ?_
      cases s.listed (es.map (.mk none)) with
      | error err => rfl
      | ok vs => exact congrArg (fun us => Except.ok (keyed, us)) (List.append_assoc unkeyed [v] vs)

def mainValue : List (Value TypeName) → List (Bytes × Value TypeName)
  | [] => []
  | [v] => [(valueElement, v)]
  | vs => [(valueElement, .list vs)]

theorem annot_unkeyed (type : Mark.Reference) (es : List Mark.Expr) (pos : Mark.Position) :
    s.annot ⟨type, some (es.map (.mk none)), pos⟩ = (do
      let path ← s.packageOf type
      let vs ← s.listed (es.map (.mk none))
      return { type := Bytes.ofString (path ++ "." ++ type.name), values := mainValue vs,
               pos := some (s.lines.place (some pos)) }) := by
  unfold annot
  cases s.packageOf type with
  | error err => rfl
  | ok path =>
    simp only [Option.getD_some, arguments_unkeyed]
    cases s.listed (es.map (.mk none)) with
    | error err => rfl
    | ok vs => rcases vs with _ | ⟨v, _ | ⟨w, vs⟩⟩ <;> rfl

theorem annot_keyed (type : Mark.Reference) (es : List Mark.Expr) (pos keyPos listPos : Mark.Position) :
    s.annot ⟨type, some [.mk (some ⟨none, "Value", keyPos⟩) (.list (es.map (.mk none)) listPos)], pos⟩ = (do
      let path ← s.packageOf type
      let vs ← s.listed (es.map (.mk none))
      return { type := Bytes.ofString (path ++ "." ++ type.name), values := [(valueElement, .list vs)],
               pos := some (s.lines.place (some pos)) }) := by
  unfold annot
  cases s.packageOf type with
  | error err => rfl
  | ok path =>
    simp only [Option.getD_some, arguments, value]
    cases s.listed (es.map (.mk none)) with
    | error err => rfl
    | ok vs => rfl

theorem value?_single (a : SourceAnnot) (v : Value TypeName) (h : a.values = [(valueElement, v)]) :
    a.value? valueElement = some v := by
  simp [Annot.value?, h]

/-- One value or several, the main value names the types and holds the texts of all of them. -/
theorem exists_mainValue {vs : List (Value TypeName)} (h : vs ≠ []) :
    ∃ v, mainValue vs = [(valueElement, v)] ∧ v.types? = (Value.list vs).types? ∧ v.texts = (Value.list vs).texts := by
  rcases vs with _ | ⟨v, _ | ⟨w, vs⟩⟩
  · exact absurd rfl h
  · exact ⟨v, rfl, (Value.types?_singleton v).symm, (Value.texts_singleton v).symm⟩
  · exact ⟨.list (v :: w :: vs), rfl, rfl, rfl⟩

/-- Values without keys are shorthand for a list of them under the key of the main value. Both annotations are
refused with the same message, or both say the same: their types, the types they name and their texts are the same.
They name types just when all leaves of the values are types, and then these from left to right. -/
theorem unkeyed_is_shorthand {p : Program} {scope : Scope} {lines lines' : LineMap} {type type' : Mark.Reference}
    {es es' : List Mark.Expr} (pos pos' keyPos listPos : Mark.Position) (hne : es ≠ [])
    (htype : type.unplaced = type'.unplaced) (hes : es.map Mark.Expr.unplaced = es'.map Mark.Expr.unplaced) :
    (∃ e e', annot ⟨p, scope, lines⟩ ⟨type, some (es.map (.mk none)), pos⟩ = .error e ∧
        annot ⟨p, scope, lines'⟩
          ⟨type', some [.mk (some ⟨none, "Value", keyPos⟩) (.list (es'.map (.mk none)) listPos)], pos'⟩ = .error e' ∧
        e.error.message = e'.error.message) ∨
      ∃ a a' vs, annot ⟨p, scope, lines⟩ ⟨type, some (es.map (.mk none)), pos⟩ = .ok a ∧
        annot ⟨p, scope, lines'⟩
          ⟨type', some [.mk (some ⟨none, "Value", keyPos⟩) (.list (es'.map (.mk none)) listPos)], pos'⟩ = .ok a' ∧
        a.type = a'.type ∧ List.Forall₂ (fun e v => value ⟨p, scope, lines⟩ e = .ok v) es vs ∧
        a.interfaces? = a'.interfaces? ∧ a.texts = a'.texts ∧
        ∀ ts, a.interfaces? = some ts ↔ (Value.list vs).leaves = ts.map .type := by
  have hname : type.name = type'.name := (congrArg Mark.Reference.name htype :)
  have hpath : outcome (packageOf ⟨p, scope, lines⟩ type) = outcome (packageOf ⟨p, scope, lines'⟩ type') := by
    rw [outcome_packageOf lines lines' (fun _ => .start) type, outcome_packageOf lines' lines' (fun _ => .start) type']
    exact congrArg _ (congrArg _ htype)
  rw [annot_unkeyed, annot_keyed]
  obtain ⟨e, e', he, he', hmessage⟩ | ⟨path, hread, hread'⟩ := outcome_cases hpath
  · exact .inl ⟨e, e', by rw [he]; rfl, by rw [he']; rfl, hmessage⟩
  rw [hread, hread']
  obtain ⟨e, e', he, he', hmessage⟩ | ⟨vs, hvs, hvs'⟩ := outcome_cases (outcome_listed_eq lines lines' hes)
  · exact .inl ⟨e, e', by rw [he]; rfl, by rw [he']; rfl, hmessage⟩
  rw [hvs, hvs']
  have hforall := listed_eq_ok_iff.mp hvs
  have hsome : vs ≠ [] := by
    rintro rfl
    cases hforall
    exact hne rfl
  obtain ⟨v, hmain, htypes, htexts⟩ := exists_mainValue hsome
  refine .inr ⟨_, _, vs, rfl, rfl, by rw [hname], hforall, ?_, ?_, fun ts => ?_⟩
  · rw [Annot.interfaces?, Annot.interfaces?, value?_single _ _ hmain, value?_single _ _ rfl]
    exact htypes
  · rw [Annot.texts, Annot.texts, value?_single _ _ hmain, value?_single _ _ rfl]
    exact htexts
  · rw [Annot.interfaces?, value?_single _ _ hmain, ← Value.types?_eq_some_iff]
    exact iff_of_eq (congrArg (· = some ts) htypes)

namespace Pair

def app : Package := { id := "app", path := "app", name := "app", dir := Bytes.ofString ".", files := [] }

def appFile : File :=
  { path := Bytes.ofString "app.go", packageName := "app", doc := none, imports := [], decls := [], docs := [],
    size := 0 }

def appScope : Scope := { package := app, file := appFile }

def type : Mark.Reference := ⟨none, "P", ⟨1, 2, 1⟩⟩

/-- The values `any,{error}`, which start at a column. -/
def values (column : Nat) : List Mark.Expr :=
  [.ref ⟨none, "any", ⟨1, column, column - 1⟩⟩,
    .list [.mk none (.ref ⟨none, "error", ⟨1, column + 5, column + 4⟩⟩)] ⟨1, column + 4, column + 3⟩]

def short : Mark := ⟨type, some ((values 4).map (.mk none)), ⟨1, 1, 0⟩⟩

def long : Mark :=
  ⟨type, some [.mk (some ⟨none, "Value", ⟨1, 4, 3⟩⟩) (.list ((values 11).map (.mk none)) ⟨1, 10, 9⟩)], ⟨1, 1, 0⟩⟩

end Pair

open Pair in
theorem unkeyed_is_shorthand_pair :
    Mark.parse (Bytes.ofString "@P(any,{error})") = .ok [short] ∧
      Mark.parse (Bytes.ofString "@P{Value:{any,{error}}}") = .ok [long] ∧
      values 4 ≠ [] ∧ (values 4).map Mark.Expr.unplaced = (values 11).map Mark.Expr.unplaced ∧
      ∃ a a', annot ⟨⟨[app], {}⟩, appScope, []⟩ short = .ok a ∧ annot ⟨⟨[app], {}⟩, appScope, []⟩ long = .ok a' ∧
        a.interfaces? = a'.interfaces? ∧
        a.interfaces?.map (List.map fun t => t.token.name) = some ["any", "error"] := by
  have hne : values 4 ≠ [] := List.cons_ne_nil _ _
  have hsame : (values 4).map Mark.Expr.unplaced = (values 11).map Mark.Expr.unplaced := rfl
  refine ⟨by rfl, by rfl, hne, hsame, ?_⟩
  have hnames : ((annot ⟨⟨[app], {}⟩, appScope, []⟩ short).toOption.bind Annot.interfaces?).map
      (List.map fun t => t.token.name) = some ["any", "error"] := by decide +kernel
  obtain ⟨e, e', he, -⟩ | ⟨a, a', vs, ha, ha', -, -, hinterfaces, -⟩ :=
    @unkeyed_is_shorthand ⟨[app], {}⟩ appScope [] [] type type (values 4) (values 11) ⟨1, 1, 0⟩ ⟨1, 1, 0⟩ ⟨1, 4, 3⟩
      ⟨1, 10, 9⟩ hne rfl hsame
  · rw [short, he] at hnames
    cases hnames
  · rw [short, ha] at hnames
    exact ⟨a, a', ha, ha', hinterfaces, hnames⟩

end Site
end Elements
end ServiceAnnotations
