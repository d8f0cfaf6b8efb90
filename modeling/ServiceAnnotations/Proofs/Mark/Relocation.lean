import ServiceAnnotations.Mark.Parser

/-! # Reading does not look at places

Places are only carried along. When those of all tokens are changed, the same annotations are read, with their
places changed alike, or the same fault is met. -/
namespace ServiceAnnotations.Mark

def Reference.mapPos (φ : Position → Position) (r : Reference) : Reference := { r with pos := φ r.pos }

mutual

def Expr.mapPos (φ : Position → Position) : Expr → Expr
  | .literal value pos => .literal value (φ pos)
  | .ref name => .ref (name.mapPos φ)
  | .list items pos => .list (Item.mapPosAll φ items) (φ pos)

def Item.mapPos (φ : Position → Position) : Item → Item
  | .mk key value => .mk (key.map (Reference.mapPos φ)) (value.mapPos φ)

def Item.mapPosAll (φ : Position → Position) : List Item → List Item
  | [] => []
  | item :: rest => item.mapPos φ :: Item.mapPosAll φ rest

end

/-- A name apart from its place. -/
def Reference.unplaced (r : Reference) : Reference := r.mapPos fun _ => .start

/-- A value apart from the places of its parts. -/
def Expr.unplaced (e : Expr) : Expr := e.mapPos fun _ => .start

end ServiceAnnotations.Mark

namespace ServiceAnnotations
open Mark

def Mark.mapPos (φ : Position → Position) (m : Mark) : Mark :=
  ⟨m.type.mapPos φ, m.args.map (Item.mapPosAll φ), φ m.pos⟩

/-- An annotation apart from the places of its parts. -/
def Mark.unplaced (m : Mark) : Mark := m.mapPos fun _ => .start

end ServiceAnnotations

namespace ServiceAnnotations.Mark

def Lexeme.mapPos (φ : Position → Position) : Lexeme → Lexeme
  | .token pos t => .token (φ pos) t
  | .failure pos e => .failure (pos.map φ) e

def Input.mapPos (φ : Position → Position) (i : Input) : Input :=
  ⟨i.tokens.map (Prod.map φ id), i.ending.mapPos φ⟩

def ParseError.mapPos (φ : Position → Position) (e : ParseError) : ParseError := ⟨e.pos.map φ, e.fault⟩

variable {α β : Type} {φ : Position → Position}

/-- What a reader gives when places are changed: `f` changes those of its value. -/
def relocated (φ : Position → Position) (f : α → α) : Except ParseError α → Except ParseError α
  | .ok a => .ok (f a)
  | .error e => .error (e.mapPos φ)

@[simp] theorem relocated_ok (f : α → α) (a : α) : relocated φ f (.ok a) = .ok (f a) := rfl

/-- Steps in a row are changed one by one. -/
theorem relocated_bind {f : α → α} {g : β → β} {x : Except ParseError α} {k k' : α → Except ParseError β}
    (h : ∀ a, k' (f a) = relocated φ g (k a)) : relocated φ f x >>= k' = relocated φ g (x >>= k) := by
  cases x with
  | ok a => exact h a
  | error e => rfl

def withInput (φ : Position → Position) (f : α → α) (r : α × Input) : α × Input := (f r.1, r.2.mapPos φ)

theorem Input.mapPos_behind (φ : Position → Position) (i : Input) : (i.mapPos φ).behind = i.behind.mapPos φ := by
  simp [mapPos, behind, List.map_tail]

theorem Input.mapPos_peek (φ : Position → Position) (i : Input) :
    (i.mapPos φ).peek = relocated φ (Prod.map φ id) i.peek := by
  obtain ⟨tokens, ending⟩ := i
  cases tokens with
  | cons t rest => rfl
  | nil => cases ending <;> rfl

theorem Input.mapPos_skipLineEnds (φ : Position → Position) (i : Input) :
    (i.mapPos φ).skipLineEnds = i.skipLineEnds.mapPos φ := by
  simp only [mapPos, skipLineEnds, List.dropWhile_map]
  rfl

theorem Input.mapPos_next (φ : Position → Position) (nested : Bool) (i : Input) :
    (i.mapPos φ).next nested = relocated φ (withInput φ (Prod.map φ id)) (i.next nested) := by
  unfold next
  have hskip : (if nested then (i.mapPos φ).skipLineEnds else i.mapPos φ) =
      (if nested then i.skipLineEnds else i).mapPos φ := by
    cases nested with
    | false => rfl
    | true => exact mapPos_skipLineEnds φ i
  simp only [hskip, mapPos_peek]
  exact relocated_bind fun t => rfl

theorem parseWord_mapPos (φ : Position → Position) (nested : Bool) (i : Input) :
    parseWord nested (i.mapPos φ) = relocated φ (withInput φ (Prod.map φ id)) (parseWord nested i) := by
  unfold parseWord
  rw [Input.mapPos_next]
  refine relocated_bind ?_
  rintro ⟨⟨pos, t⟩, i⟩
  simp only [withInput, Prod.map, id, Input.mapPos_behind]
  split <;> rfl

theorem parseReference_mapPos (φ : Position → Position) (nested : Bool) (i : Input) :
    parseReference nested (i.mapPos φ) =
      relocated φ (withInput φ (Reference.mapPos φ)) (parseReference nested i) := by
  unfold parseReference
  rw [parseWord_mapPos]
  refine relocated_bind ?_
  rintro ⟨⟨pos, name⟩, i⟩
  simp only [withInput, Prod.map, id, Input.mapPos_next]
  refine relocated_bind ?_
  rintro ⟨⟨pos', t⟩, i⟩
  by_cases ht : t = .rune '.'
  · simp only [withInput, Prod.map, id, ht, if_true, Input.mapPos_behind, parseWord_mapPos]
    exact relocated_bind fun r => rfl
  · simp only [withInput, Prod.map, id, ht, if_false]
    rfl

mutual

theorem parseValue_mapPos (φ : Position → Position) (fuel : Nat) (i : Input) :
    parseValue fuel (i.mapPos φ) = relocated φ (withInput φ (Expr.mapPos φ)) (parseValue fuel i) := by
  cases fuel with
  | zero =>
    rw [parseValue, parseValue, Input.mapPos_next]
    exact relocated_bind fun r => rfl
  | succ fuel =>
    rw [parseValue, parseValue, Input.mapPos_next]
    refine relocated_bind ?_
    rintro ⟨⟨pos, t⟩, i⟩
    simp only [withInput, Prod.map, id, Input.mapPos_behind]
    split
    · rw [parseReference_mapPos]
      exact relocated_bind fun r => rfl
    · rfl
    · rfl
    · rfl
    · rfl
    · rfl
    · rfl
    · rw [Input.mapPos_next]
      refine relocated_bind ?_
      rintro ⟨⟨pos', u⟩, i⟩
      simp only [withInput, Prod.map, id, Input.mapPos_behind]
      split <;> rfl
    · rw [parseItems_mapPos]
      exact relocated_bind fun r => rfl
    · rfl

theorem parseItems_mapPos (φ : Position → Position) (close : Char) (fuel : Nat) (i : Input) :
    parseItems close fuel (i.mapPos φ) =
      relocated φ (withInput φ (Item.mapPosAll φ)) (parseItems close fuel i) := by
  cases fuel with
  | zero =>
    rw [parseItems, parseItems, Input.mapPos_next]
    exact relocated_bind fun r => rfl
  | succ fuel =>
    rw [parseItems, parseItems, Input.mapPos_next]
    refine relocated_bind ?_
    rintro ⟨⟨pos, t⟩, i⟩
    simp only [withInput, Prod.map, id, Input.mapPos_behind]
    split
    · rfl
    · rw [parseItem_mapPos]
      refine relocated_bind ?_
      rintro ⟨item, i⟩
      simp only [withInput, Input.mapPos_next]
      refine relocated_bind ?_
      rintro ⟨⟨pos', u⟩, i⟩
      simp only [withInput, Prod.map, id, Input.mapPos_behind]
      split
      · rw [parseItems_mapPos]
        exact relocated_bind fun r => rfl
      · split <;> rfl

theorem parseItem_mapPos (φ : Position → Position) (fuel : Nat) (i : Input) :
    parseItem fuel (i.mapPos φ) = relocated φ (withInput φ (Item.mapPos φ)) (parseItem fuel i) := by
  cases fuel with
  | zero =>
    rw [parseItem, parseItem, Input.mapPos_next]
    exact relocated_bind fun r => rfl
  | succ fuel =>
    rw [parseItem, parseItem, parseValue_mapPos]
    refine relocated_bind ?_
    rintro ⟨value, i⟩
    rcases value with ⟨c, pos⟩ | ⟨package | package, name, pos⟩ | ⟨items, pos⟩
    · rfl
    · simp only [withInput, Expr.mapPos, Reference.mapPos, Input.mapPos_next]
      refine relocated_bind ?_
      rintro ⟨⟨pos', t⟩, i⟩
      simp only [withInput, Prod.map, id, Input.mapPos_behind]
      split
      · rw [parseValue_mapPos]
        exact relocated_bind fun r => rfl
      · rfl
    · rfl
    · rfl

end

theorem parseArgs_mapPos (φ : Position → Position) (fuel : Nat) (i : Input) :
    parseArgs fuel (i.mapPos φ) =
      relocated φ (withInput φ (Option.map (Item.mapPosAll φ))) (parseArgs fuel i) := by
  unfold parseArgs
  rw [Input.mapPos_peek]
  refine relocated_bind ?_
  rintro ⟨pos, t⟩
  simp only [Prod.map, id, Input.mapPos_behind]
  split
  · rw [parseItems_mapPos]
    exact relocated_bind fun r => rfl
  · rw [parseItems_mapPos]
    exact relocated_bind fun r => rfl
  · rfl

theorem parseMark_mapPos (φ : Position → Position) (fuel : Nat) (pos : Position) (i : Input) :
    parseMark fuel (φ pos) (i.mapPos φ) = relocated φ (withInput φ (Mark.mapPos φ)) (parseMark fuel pos i) := by
  unfold parseMark
  rw [Input.mapPos_behind, parseReference_mapPos]
  refine relocated_bind ?_
  rintro ⟨type, i⟩
  simp only [withInput, parseArgs_mapPos]
  refine relocated_bind ?_
  rintro ⟨args, i⟩
  simp only [withInput, Input.mapPos_peek]
  refine relocated_bind ?_
  rintro ⟨pos', t⟩
  simp only [Prod.map, id, Input.mapPos_behind]
  split <;> rfl

/-- Annotations are read alike wherever their tokens stand. -/
theorem parseMarks_mapPos (φ : Position → Position) (fuel : Nat) (i : Input) :
    parseMarks fuel (i.mapPos φ) = relocated φ (List.map (Mark.mapPos φ)) (parseMarks fuel i) := by
  induction fuel generalizing i with
  | zero => rfl
  | succ fuel ih =>
    rw [parseMarks, parseMarks, Input.mapPos_peek]
    refine relocated_bind ?_
    rintro ⟨pos, t⟩
    simp only [Prod.map, id, Input.mapPos_behind]
    split
    · rfl
    · exact ih i.behind
    · rw [parseMark_mapPos]
      refine relocated_bind ?_
      rintro ⟨mark, i⟩
      simp only [withInput, ih]
      exact relocated_bind fun marks => rfl
    · rfl

end ServiceAnnotations.Mark
