import LineBasic.Expr.Eval
import LineBasic.Number.Spelling
import LineBasic.Text.Quoted

/-!
Labelled trees: the open form in which expressions are exchanged. A node has a
kind, which may be any word, a label and any number of children. Every expression
is such a tree; a tree of another kind can be shown and compared, but has no
value.
-/
namespace LineBasic

/-- What a node of a tree is labelled with. -/
inductive Label where
  | number (value : Int)
  | text (content : String)
  deriving DecidableEq, Repr

namespace Label

def render : Label → String
  | .number value => Decimal.write value
  | .text content => content

def describe : Label → String
  | .number value => Decimal.write value
  | .text content => Text.quoted content

end Label

inductive Tree where
  | node (kind : String) (label : Label) (children : List Tree)
  deriving Repr

namespace Tree

def constantKind : String := "constant"
def variableKind : String := "identifier"
def binaryKind : String := "binary"

/-- The kind of a tree's first node. -/
def kind : Tree → String
  | .node kind _ _ => kind

/-- The label of a tree's first node. -/
def label : Tree → Label
  | .node _ label _ => label

mutual

/-- Whether two trees agree in every node. -/
def same : Tree → Tree → Bool
  | .node kind label children, .node otherKind otherLabel otherChildren =>
    kind == otherKind && label == otherLabel && sameAll children otherChildren

/-- Whether two lists of trees agree. -/
def sameAll : List Tree → List Tree → Bool
  | [], [] => true
  | tree :: later, other :: otherLater => same tree other && sameAll later otherLater
  | _, _ => false

end

/-- The tree as text: a binary node with its first two children, which it must
    have, in round brackets, and any other node by its label. -/
def render : Tree → Except Stop String
  | .node kind label (left :: right :: _) =>
    if kind = binaryKind then
      match left.render, right.render with
      | .ok first, .ok second => .ok ("(" ++ first ++ " " ++ label.render ++ " " ++ second ++ ")")
      | .error stop, _ | _, .error stop => .error stop
    else .ok label.render
  | .node kind label _ => if kind = binaryKind then .error .missingOperand else .ok label.render

mutual

/-- The tree as `ExpressionNode(kind, value=…, children=[…])`, with the children
    only where there are some. -/
def describe : Tree → String
  | .node kind label children =>
    "ExpressionNode(" ++ kind ++ ", value=" ++ label.describe ++
      (match children with
      | [] => ""
      | first :: later => ", children=[" ++ first.describe ++ describeLater later ++ "]") ++ ")"

/-- The children after the first, each after a comma. -/
def describeLater : List Tree → String
  | [] => ""
  | tree :: later => ", " ++ tree.describe ++ describeLater later

end

/-- The value of a tree, by the rules for expressions. Of the children of a binary
    node the first two count; that one is missing is noticed when it is needed. A
    node of any other kind than an expression has stops the evaluation. -/
def eval : Tree → Step Variables Int
  | .node kind label (left :: right :: _) =>
    if kind = binaryKind then
      if label = .text Operator.assign.sign then
        if left.kind = variableKind then do
          let value ← right.eval
          Variables.assign left.label.render value
          return value
        else Step.fail .notAssignable
      else do
        let first ← left.eval
        let second ← right.eval
        match Operator.ofSign? label.render with
        | some (.arithmetic operation) => operation.computeStep first second
        | _ => Step.fail .malformed
    else leafValue kind label
  | .node kind label [left] =>
    if kind = binaryKind then
      if label = .text Operator.assign.sign then
        if left.kind = variableKind then throw .missingOperand else Step.fail .notAssignable
      else do
        let _ ← left.eval
        throw .missingOperand
    else leafValue kind label
  | .node kind label [] => if kind = binaryKind then throw .missingOperand else leafValue kind label
where
  /-- The value of a node that has no operands. -/
  leafValue (kind : String) (label : Label) : Step Variables Int :=
    if kind = constantKind then
      match label with
      | .number value => return value
      | .text content => Step.ofExcept (Spelling.read content)
    else if kind = variableKind then Variables.read label.render
    else throw (.noValue kind)

end Tree

/-- The tree of an expression. -/
def Expr.toTree : Expr → Tree
  | .constant value => .node Tree.constantKind (.number value) []
  | .identifier name => .node Tree.variableKind (.text name) []
  | .binary operator left right => .node Tree.binaryKind (.text operator.sign) [left.toTree, right.toTree]

/-- An expression and its tree are shown alike. -/
theorem Tree.render_toTree (expression : Expr) : expression.toTree.render = .ok expression.render := by
  induction expression with
  | constant value => rfl
  | identifier name => rfl
  | binary operator left right ihl ihr =>
    simp only [Expr.toTree, Tree.render, if_true, Label.render, ihl, ihr, Expr.render]

/-- An expression and its tree have the same value and assign the same. -/
theorem Tree.eval_toTree (expression : Expr) : expression.toTree.eval = expression.eval := by
  induction expression with
  | constant value => rfl
  | identifier name => rfl
  | binary operator left right ihl ihr =>
    cases operator with
    | assign =>
      cases left <;>
        simp [Expr.toTree, Tree.eval, Tree.kind, Tree.label, Expr.eval, ihr, Operator.sign, Tree.variableKind,
          Tree.constantKind, Tree.binaryKind, Label.render]
    | arithmetic operation =>
      have sign : (Label.text (Operator.arithmetic operation).sign = .text Operator.assign.sign) = False := by
        cases operation <;> simp [Operator.sign]
      have known : Operator.ofSign? (Operator.arithmetic operation).sign = some (.arithmetic operation) := by
        cases operation <;> decide
      simp only [Expr.toTree, Tree.eval, if_true, sign, if_false, ihl, ihr, Label.render, known, Expr.eval]

end LineBasic
