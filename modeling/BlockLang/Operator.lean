/-!
# Operators

The binary operators stand on five levels of precedence. Operators of one family share a level,
except the two connectives.
-/

namespace BlockLang

/-- The binary operators. -/
inductive Operator where
  | add | subtract
  | multiply | divide
  | equal | notEqual | less | lessEqual | greater | greaterEqual
  | and | or
  deriving DecidableEq, Repr, Inhabited

/-- What an operator is for. -/
inductive OperatorFamily where
  | additive | multiplicative | relational | connective
  deriving DecidableEq, Repr, Inhabited

namespace Operator

/-- The operators in the order in which their sets are listed. -/
def all : List Operator :=
  [.add, .subtract, .multiply, .divide, .equal, .notEqual, .less, .lessEqual, .greater,
    .greaterEqual, .and, .or]

/-- The token of an operator. -/
def text : Operator → String
  | .add => "+"
  | .subtract => "-"
  | .multiply => "*"
  | .divide => "/"
  | .equal => "=="
  | .notEqual => "!="
  | .less => "<"
  | .lessEqual => "<="
  | .greater => ">"
  | .greaterEqual => ">="
  | .and => "&&"
  | .or => "||"

/-- The name of an operator in a dump. -/
def name : Operator → String
  | .add => "Add"
  | .subtract => "Subtract"
  | .multiply => "Multiply"
  | .divide => "Divide"
  | .equal => "Equal"
  | .notEqual => "NotEqual"
  | .less => "Less"
  | .lessEqual => "LessEqual"
  | .greater => "Greater"
  | .greaterEqual => "GreaterEqual"
  | .and => "And"
  | .or => "Or"

def family : Operator → OperatorFamily
  | .add | .subtract => .additive
  | .multiply | .divide => .multiplicative
  | .equal | .notEqual | .less | .lessEqual | .greater | .greaterEqual => .relational
  | .and | .or => .connective

/-- Binding strength; a larger number binds tighter. -/
def precedence : Operator → Nat
  | .or => 1
  | .and => 2
  | .equal | .notEqual | .less | .lessEqual | .greater | .greaterEqual => 3
  | .add | .subtract => 4
  | .multiply | .divide => 5

/-- The operator with the given token. -/
def ofText? (token : String) : Option Operator :=
  all.find? fun operator => operator.text == token

def isArithmetic (operator : Operator) : Bool :=
  operator.family == .additive || operator.family == .multiplicative

def isRelational (operator : Operator) : Bool := operator.family == .relational

def isConnective (operator : Operator) : Bool := operator.family == .connective

/-- True when the operator gives a truth value. -/
def isBoolean (operator : Operator) : Bool := operator.isRelational || operator.isConnective

theorem mem_all (operator : Operator) : operator ∈ all := by
  cases operator <;> decide

@[simp] theorem ofText?_text (operator : Operator) : ofText? operator.text = some operator := by
  cases operator <;> decide

theorem ofText?_eq_some_iff {token : String} {operator : Operator} :
    ofText? token = some operator ↔ token = operator.text := by
  constructor
  · intro found
    have same : operator.text = token := by simpa using List.find?_some found
    exact same.symm
  · rintro rfl
    exact ofText?_text operator

theorem text_injective {first second : Operator} (same : first.text = second.text) :
    first = second := by
  have found := ofText?_text first
  rw [same, ofText?_text] at found
  exact (Option.some.inj found).symm

end Operator

namespace OperatorFamily

/-- The operators of a family, in their listed order. -/
def members (family : OperatorFamily) : List Operator :=
  Operator.all.filter fun operator => operator.family == family

/-- The tokens of a family, in their listed order. -/
def lexemes (family : OperatorFamily) : List String := family.members.map Operator.text

theorem mem_members {family : OperatorFamily} {operator : Operator} :
    operator ∈ family.members ↔ operator.family = family := by
  simp [members, Operator.mem_all]

end OperatorFamily

end BlockLang
