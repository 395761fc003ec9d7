import PageBuilder.ElementType

/-!
The guard against adds that fire twice: an add with the type and the position of the one admitted
last, less than the window after it, is turned away. Times are in milliseconds.
-/

namespace PageBuilder

/-- An admitted add. -/
structure AddAttempt where
  type : ElementType
  position : Position
  at_ : Int

/-- The length of the window and the add admitted last. -/
structure AddGuard where
  window : Nat
  last : Option AddAttempt

namespace AddGuard

def new (window : Nat) : AddGuard := ⟨window, none⟩

/-- The attempt repeats an admitted one less than `window` after it. A clock that went backwards
counts as standing still. -/
def repeats (window : Nat) (last attempt : AddAttempt) : Bool :=
  last.type == attempt.type && last.position.same attempt.position &&
    max 0 (attempt.at_ - last.at_) < window

/-- The attempt is turned away. -/
def rejects (g : AddGuard) (attempt : AddAttempt) : Bool :=
  match g.last with
  | some last => repeats g.window last attempt
  | none => false

/-- Whether an attempt is admitted, and the guard after it. Only an admitted attempt is remembered,
and none is when the window is zero. -/
def offer (g : AddGuard) (attempt : AddAttempt) : Bool × AddGuard :=
  if g.window = 0 then (true, g)
  else if g.rejects attempt then (false, g)
  else (true, { g with last := some attempt })

def reset (g : AddGuard) : AddGuard := { g with last := none }

end AddGuard

end PageBuilder
