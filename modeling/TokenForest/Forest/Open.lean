import TokenForest.Forest.Error
import TokenForest.Forest.Tree

set_option autoImplicit false

namespace TokenForest

/-- An open unit. A block keeps its unfinished line apart from its finished children. -/
inductive Frame
  | collection (opener : Token) (children : Forest)
  | block (opener : Token) (children line : Forest)

/-- The finished part of the top level. Trivia waits for the first unit, and later trails the latest one. -/
inductive TopLevel
  | leading (trivia : Forest)
  | units (earlier : Forest) (kind : UnitKind) (children : Forest)

namespace TopLevel

def addUnit (kind : UnitKind) (children : Forest) : TopLevel → TopLevel
  | leading trivia => units [] kind (trivia ++ children)
  | units earlier latest below => units (earlier ++ [.unit latest below]) kind children

def addTrivia (trivia : Forest) : TopLevel → TopLevel
  | leading before => leading (before ++ trivia)
  | units earlier latest below => units earlier latest (below ++ trivia)

-- A line needs something besides trivia to be a unit of its own.
def addLine (line : Forest) (top : TopLevel) : TopLevel :=
  if line.any Tree.isSignificant then top.addUnit .line line else top.addTrivia line

@[simp] theorem addLine_nil (top : TopLevel) : top.addLine [] = top := by
  cases top <;> simp [addLine, addTrivia]

-- A stream of nothing but trivia is one line.
def forest : TopLevel → Forest
  | leading [] => []
  | leading (tree :: rest) => [.unit .line (tree :: rest)]
  | units earlier kind children => earlier ++ [.unit kind children]

end TopLevel

-- The children of a block after a line. Trivia alone is no line and stays loose.
def Forest.addLine (children line : Forest) : Forest :=
  if line.any Tree.isSignificant then children ++ [.unit .line line] else children ++ line

@[simp] theorem Forest.addLine_nil (children : Forest) : addLine children [] = children := by
  simp [addLine]

namespace Frame

def delimiter : Frame → Delimiter
  | collection _ _ => .paren
  | block _ _ _ => .brace

def opener : Frame → Token
  | collection opener _ | block opener _ _ => opener

def closed (closer : Option Token) : Frame → Forest
  | collection opener children => [.leaf opener] ++ children ++ closer.toList.map .leaf
  | block opener children line =>
      [.leaf opener] ++ Forest.addLine children line ++ closer.toList.map .leaf

end Frame

structure OpenForest where
  keepTrivia : Bool
  stack : List Frame
  top : TopLevel
  line : Forest

namespace OpenForest

def empty (keepTrivia : Bool) : OpenForest :=
  ⟨keepTrivia, [], .leading [], []⟩

def openCount (state : OpenForest) : Nat :=
  state.stack.length

def attach (state : OpenForest) (tree : Tree) : OpenForest :=
  match state.stack with
  | [] => { state with line := state.line ++ [tree] }
  | .collection opener children :: below =>
      { state with stack := .collection opener (children ++ [tree]) :: below }
  | .block opener children line :: below =>
      { state with stack := .block opener children (line ++ [tree]) :: below }

@[simp] theorem openCount_attach (state : OpenForest) (tree : Tree) :
    (state.attach tree).openCount = state.openCount := by
  unfold attach
  split <;> simp_all [openCount]

def breakLine (state : OpenForest) : OpenForest :=
  match state.stack with
  | [] => { state with top := state.top.addLine state.line, line := [] }
  | .collection _ _ :: _ => state
  | .block opener children line :: below =>
      { state with stack := .block opener (Forest.addLine children line) [] :: below }

@[simp] theorem openCount_breakLine (state : OpenForest) :
    state.breakLine.openCount = state.openCount := by
  unfold breakLine
  split <;> simp_all [openCount]

def enter (state : OpenForest) (frame : Frame) : OpenForest :=
  { state with stack := frame :: state.stack }

@[simp] theorem openCount_enter (state : OpenForest) (frame : Frame) :
    (state.enter frame).openCount = state.openCount + 1 := by
  simp [enter, openCount]

-- Adds a finished block beside the lines around it: the line before it ended where the block began.
def attachBlock (state : OpenForest) (children : Forest) : OpenForest :=
  match state.stack with
  | [] => { state with top := state.top.addUnit .block children }
  | .collection opener siblings :: below =>
      { state with stack := .collection opener (siblings ++ [.unit .block children]) :: below }
  | .block opener siblings line :: below =>
      { state with stack := .block opener (siblings ++ [.unit .block children]) line :: below }

@[simp] theorem openCount_attachBlock (state : OpenForest) (children : Forest) :
    (state.attachBlock children).openCount = state.openCount := by
  unfold attachBlock
  split <;> simp_all [openCount]

def leave (state : OpenForest) (closer : Option Token) : OpenForest :=
  match state.stack with
  | [] => state
  | frame :: below =>
    let outer := { state with stack := below }
    match frame.delimiter with
    | .paren => outer.attach (.unit .collection (frame.closed closer))
    | .brace => outer.attachBlock (frame.closed closer)

@[simp] theorem openCount_leave (state : OpenForest) (closer : Option Token) :
    (state.leave closer).openCount = state.openCount - 1 := by
  unfold leave
  split
  · next none => simp [openCount, none]
  · next frame below some =>
    have outer : ({ state with stack := below } : OpenForest).openCount = state.openCount - 1 := by
      simp [openCount, some]
    cases frame.delimiter <;> simp [outer]

def leaveTimes : Nat → OpenForest → OpenForest
  | 0, state => state
  | count + 1, state => leaveTimes count (state.leave none)

@[simp] theorem openCount_leaveTimes (count : Nat) (state : OpenForest) :
    (leaveTimes count state).openCount = state.openCount - count := by
  induction count generalizing state with
  | zero => rfl
  | succ count ih => simp [leaveTimes, ih, Nat.sub_sub, Nat.add_comm]

-- What is wrong with a token here: only a closer can be, and only with the innermost open unit.
def fault? (state : OpenForest) (token : Token) : Option StructureError :=
  match token.role with
  | .closer delimiter =>
    match state.stack with
    | [] => some (.unopened token delimiter)
    | frame :: _ =>
      if frame.delimiter = delimiter then none
      else some (.mismatched frame.opener token frame.delimiter)
  | _ => none

def absorb (state : OpenForest) (token : Token) : OpenForest :=
  if token.isTrivia && !state.keepTrivia then state
  else
    match token.role with
    | .opener .paren => state.enter (.collection token [])
    | .opener .brace => state.breakLine.enter (.block token [] [])
    | .closer _ => state.leave (some token)
    | .separator => (state.attach (.leaf token)).breakLine
    | .plain => state.attach (.leaf token)

def push (state : OpenForest) (token : Token) : Except StructureError OpenForest :=
  match state.fault? token with
  | some error => .error error
  | none => .ok (state.absorb token)

-- Keeps a closer that does not match as a leaf.
def pushLenient (state : OpenForest) (token : Token) : OpenForest × Option StructureError :=
  match state.fault? token with
  | some error => (state.attach (.leaf token), some error)
  | none => (state.absorb token, none)

inductive Mode
  | strict | lenient
deriving DecidableEq

-- Offers a token in either mode; a token that strict mode refuses changes nothing.
def offer (state : OpenForest) (mode : Mode) (token : Token) : OpenForest × Option StructureError :=
  match mode with
  | .lenient => state.pushLenient token
  | .strict =>
    match state.push token with
    | .ok next => (next, none)
    | .error error => (state, some error)

def unclosed? (state : OpenForest) : Option StructureError :=
  match state.stack with
  | [] => none
  | frame :: _ => some (.unterminated frame.opener frame.delimiter state.openCount)

def forest (state : OpenForest) : Forest :=
  (state.top.addLine state.line).forest

def finish (state : OpenForest) : Except StructureError Forest :=
  match state.unclosed? with
  | some error => .error error
  | none => .ok state.forest

def finishLenient (state : OpenForest) : Forest × Option StructureError :=
  ((leaveTimes state.openCount state).forest, state.unclosed?)

end OpenForest

end TokenForest
