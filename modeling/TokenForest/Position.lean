set_option autoImplicit false

namespace TokenForest

structure Position where
  line : UInt32
  column : UInt32
deriving DecidableEq

namespace Position

def start : Position := ⟨0, 0⟩

def limit : Nat := UInt32.size - 1

def clamp (count : Nat) : UInt32 :=
  UInt32.ofNat (min count limit)

@[simp] theorem toNat_clamp (count : Nat) : (clamp count).toNat = min count limit := by
  simp only [clamp, UInt32.toNat_ofNat']
  exact Nat.mod_eq_of_lt (by simp only [limit, UInt32.size]; omega)

theorem toNat_le_limit (coordinate : UInt32) : coordinate.toNat ≤ limit :=
  Nat.le_pred_of_lt coordinate.toNat_lt

def plus (coordinate step : UInt32) : UInt32 :=
  if coordinate.toNat + step.toNat ≤ limit then coordinate + step else clamp limit

@[simp] theorem toNat_plus (coordinate step : UInt32) :
    (plus coordinate step).toNat = min (coordinate.toNat + step.toNat) limit := by
  unfold plus
  split
  · next fits =>
    rw [UInt32.toNat_add, Nat.min_eq_left fits]
    exact Nat.mod_eq_of_lt (Nat.lt_of_le_pred (by decide) fits)
  · rw [toNat_clamp]
    omega

def forward (coordinate : UInt32) (count : Nat) : UInt32 :=
  plus coordinate (clamp count)

@[simp] theorem toNat_forward (coordinate : UInt32) (count : Nat) :
    (forward coordinate count).toNat = min (coordinate.toNat + count) limit := by
  rw [forward, toNat_plus, toNat_clamp]
  omega

/-- Where a text that begins at `position` ends. A text with line feeds ends at column zero, also when more
text follows its last line feed. -/
def advance (position : Position) (text : String) : Position :=
  if '\n' ∈ text.toList then ⟨forward position.line (text.toList.count '\n'), 0⟩
  else ⟨position.line, forward position.column text.toList.length⟩

def starts (position : Position) : List String → List Position
  | [] => []
  | text :: rest => position :: starts (position.advance text) rest

@[simp] theorem length_starts (position : Position) (texts : List String) :
    (position.starts texts).length = texts.length := by
  induction texts generalizing position with
  | nil => rfl
  | cons text rest ih => simp [starts, ih]

instance : LE Position :=
  ⟨fun a b => a.line < b.line ∨ a.line = b.line ∧ a.column ≤ b.column⟩

instance (a b : Position) : Decidable (a ≤ b) :=
  inferInstanceAs (Decidable (a.line < b.line ∨ a.line = b.line ∧ a.column ≤ b.column))

theorem le_iff (a b : Position) :
    a ≤ b ↔ a.line < b.line ∨ a.line = b.line ∧ a.column ≤ b.column :=
  Iff.rfl

def oneBased (position : Position) : UInt32 × UInt32 :=
  (forward position.line 1, forward position.column 1)

def render (position : Position) : String :=
  "L" ++ toString position.line.toNat ++ ":" ++ toString position.column.toNat

def renderPair (position : Position) : String :=
  "(" ++ toString position.line.toNat ++ ", " ++ toString position.column.toNat ++ ")"

example : start.advance "ab\nc" = ⟨1, 0⟩ := by decide
example : (start.advance "é").render = "L0:1" := by decide +kernel
example : (⟨4294967295, 7⟩ : Position).oneBased = (4294967295, 8) := by decide

end Position

end TokenForest
