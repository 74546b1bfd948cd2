/-!
# Trees of source

The statements and expressions that a session evaluates.
-/

namespace ReplEngine.Language

/-- Operators of two operands that compute. -/
inductive Operator where
  | add
  | subtract
  | multiply
  | divide
  | floorDivide
  | modulo
deriving Repr, DecidableEq

/-- Comparisons. -/
inductive Comparison where
  | equal
  | unequal
  | less
  | lessOrEqual
  | greater
  | greaterOrEqual
  | within
  | notWithin
  | same
  | notSame
deriving Repr, DecidableEq

/-- An expression. -/
inductive Expr where
  | none
  | bool (b : Bool)
  | int (n : Nat)
  | float (x : Float)
  | text (s : String)
  | ellipsis
  | name (name : String)
  | list (items : List Expr)
  | tuple (items : List Expr)
  | set (items : List Expr)
  | dict (entries : List (Expr × Expr))
  | negate (e : Expr)
  | keep (e : Expr)
  | not (e : Expr)
  | binary (op : Operator) (left right : Expr)
  /-- A chain of comparisons, all of which have to hold. -/
  | compare (first : Expr) (rest : List (Comparison × Expr))
  | both (left right : Expr)
  | either (left right : Expr)
  | choose (yes test no : Expr)
  | item (e index : Expr)
  | member (e : Expr) (name : String)
  | call (f : Expr) (args : List Expr) (named : List (String × Expr))
deriving Inhabited

/-- One name that an import binds. -/
structure Import where
  module : String
  /-- What is taken from the module; without it the module itself. -/
  item : Option String := none
  target : String
deriving Inhabited

/-- A statement. -/
inductive Stmt where
  | expr (e : Expr)
  | assign (targets : List String) (e : Expr)
  | update (target : String) (op : Operator) (e : Expr)
  | delete (names : List String)
  | pass
  /-- An error is raised; without one the error that is being handled, which there never
  is. -/
  | raise (e : Option Expr)
  | imports (items : List Import)
  | returns (e : Option Expr)
  | leave
  | next
  | choose (test : Expr) (yes no : List Stmt)
  | repeatWhile (test : Expr) (body : List Stmt)
  | forEach (target : String) (items : Expr) (body : List Stmt)
  | define (name : String) (params : List (String × Option Expr)) (body : List Stmt)
  | defineClass (name : String) (base : Option Expr) (body : List Stmt)
  /-- Names that a function shares with the scope that it was defined in. -/
  | shared (names : List String)
deriving Inhabited

mutual

/-- The names that a statement shares with the scope. -/
def Stmt.sharedNames : Stmt → List String
  | .shared names => names
  | .choose _ yes no => allSharedNames yes ++ allSharedNames no
  | .repeatWhile _ body | .forEach _ _ body => allSharedNames body
  | _ => []

/-- The names that statements share with the scope. -/
def allSharedNames : List Stmt → List String
  | [] => []
  | s :: rest => s.sharedNames ++ allSharedNames rest

end

mutual

/-- Whether a statement stands where it can: loops are left and functions return only
from inside, and the parameters of a function differ and are its own. -/
def Stmt.isPlaced (inLoop inFunction : Bool) : Stmt → Bool
  | .returns _ => inFunction
  | .leave | .next => inLoop
  | .choose _ yes no => arePlaced inLoop inFunction yes && arePlaced inLoop inFunction no
  | .repeatWhile _ body | .forEach _ _ body => arePlaced true inFunction body
  | .define _ params body =>
    decide (params.map (·.1)).Nodup &&
      (params.all fun p => !(allSharedNames body).contains p.1) && arePlaced false true body
  | .defineClass _ _ body => arePlaced false false body
  | _ => true

/-- Whether all statements stand where they can. -/
def arePlaced (inLoop inFunction : Bool) : List Stmt → Bool
  | [] => true
  | s :: rest => s.isPlaced inLoop inFunction && arePlaced inLoop inFunction rest

end

mutual

/-- The names that a statement binds. -/
def Stmt.boundNames : Stmt → List String
  | .assign targets _ => targets
  | .update target _ _ => [target]
  | .delete names => names
  | .imports items => items.map (·.target)
  | .choose _ yes no => allBoundNames yes ++ allBoundNames no
  | .repeatWhile _ body => allBoundNames body
  | .forEach target _ body => target :: allBoundNames body
  | .define name _ _ | .defineClass name _ _ => [name]
  | _ => []

/-- The names that statements bind. -/
def allBoundNames : List Stmt → List String
  | [] => []
  | s :: rest => s.boundNames ++ allBoundNames rest

end

/-- The names that are variables of a function: its parameters, and what its body binds and does
not share. -/
def variablesOf (params : List String) (body : List Stmt) : List String :=
  params ++ (allBoundNames body).filter fun name => !(allSharedNames body).contains name

/-- The documentation that a body starts with. -/
def docOf : List Stmt → Option String
  | .expr (.text s) :: _ => some s
  | _ => none

end ReplEngine.Language
