import Mathlib
import LineBasic.Expr.Tree
import LineBasic.Proofs.Expr.Frame
import LineBasic.Proofs.Step.Agree

/-!
What an evaluation depends on and what it changes, for all labelled trees, of which the
expressions are some. An evaluation is put together from readings of variables whose names
occur in the tree (`Tree.names`), assignments to variables that stand directly on the left
of an `=` (`Tree.targets`), and answers and failures that do not look at the variables, so
that it has every property that these have and that is kept when one action follows another
(`Tree.Composes.eval`). Two such properties are that variables which agree on the names are
treated alike, and that only the targets change (`Tree.eval_noninterference`).
-/
namespace LineBasic

namespace Variables

/-- Each of the names has the same value in both, or in neither a value. -/
def SameOn (shared : String → Prop) (one other : Variables) : Prop :=
  ∀ name, shared name → one.get? name = other.get? name

variable {shared : String → Prop}

theorem SameOn.set {one other : Variables} (same : SameOn shared one other) (name : String) (value : Int) :
    SameOn shared (one.set name value) (other.set name value) := by
  intro wanted known
  rw [get?_set, get?_set, same wanted known]

theorem agree_read {name : String} (known : shared name) :
    Step.Agree (SameOn shared) (SameOn shared) (SameOn shared) (read name) (read name) := by
  intro one other same
  unfold read
  rw [same name known]
  cases other.get? name with
  | none => exact .inr ⟨_, one, other, rfl, rfl, same⟩
  | some value => exact .inl ⟨value, one, other, rfl, rfl, same⟩

theorem agree_assign (name : String) (value : Int) :
    Step.Agree (SameOn shared) (SameOn shared) (SameOn shared) (assign name value) (assign name value) :=
  fun one other same => .inl ⟨(), one.set name value, other.set name value, rfl, rfl, same.set name value⟩

end Variables

namespace Tree

mutual

/-- The names that occur in a tree: those of its variables. -/
def names : Tree → List String
  | .node kind label children =>
    if kind = variableKind then label.render :: namesOfAll children else namesOfAll children

/-- The names that occur in some trees. -/
def namesOfAll : List Tree → List String
  | [] => []
  | tree :: later => tree.names ++ namesOfAll later

end

/-- The name of the variable that is the left operand of an `=`, if the node is an `=` and has
    a variable for its left operand. -/
def target? : Tree → Option String
  | .node kind label (left :: _) =>
    if kind = binaryKind ∧ label = .text Operator.assign.sign ∧ left.kind = variableKind then some left.label.render
    else none
  | .node _ _ [] => none

mutual

/-- The names that stand directly on the left of an `=` somewhere in a tree. -/
def targets : Tree → List String
  | .node kind label children => (target? (.node kind label children)).toList ++ targetsOfAll children

/-- The names that stand directly on the left of an `=` somewhere in some trees. -/
def targetsOfAll : List Tree → List String
  | [] => []
  | tree :: later => tree.targets ++ targetsOfAll later

end

variable {name : String} {kind : String} {label : Label} {tree : Tree} {children : List Tree}

theorem mem_namesOfAll_iff : name ∈ namesOfAll children ↔ ∃ tree ∈ children, name ∈ tree.names := by
  induction children with
  | nil => simp [namesOfAll]
  | cons tree later ih => simp [namesOfAll, ih]

theorem mem_targetsOfAll_iff : name ∈ targetsOfAll children ↔ ∃ tree ∈ children, name ∈ tree.targets := by
  induction children with
  | nil => simp [targetsOfAll]
  | cons tree later ih => simp [targetsOfAll, ih]

theorem names_of_mem (member : tree ∈ children) (occurs : name ∈ tree.names) : name ∈ (node kind label children).names := by
  have within := mem_namesOfAll_iff.2 ⟨tree, member, occurs⟩
  unfold names
  split_ifs
  · exact List.mem_cons_of_mem _ within
  · exact within

theorem targets_of_mem (member : tree ∈ children) (assigned : name ∈ tree.targets) :
    name ∈ (node kind label children).targets := by
  unfold targets
  exact List.mem_append_right _ (mem_targetsOfAll_iff.2 ⟨tree, member, assigned⟩)

theorem mem_names_variable (label : Label) (children : List Tree) :
    label.render ∈ (node variableKind label children).names := by
  rw [names, if_pos rfl]
  exact List.mem_cons_self

theorem mem_targets_assign {left : Tree} (named : left.kind = variableKind) (later : List Tree) :
    left.label.render ∈ (node binaryKind (.text Operator.assign.sign) (left :: later)).targets := by
  rw [targets, target?, if_pos ⟨rfl, rfl, named⟩]
  exact List.mem_append_left _ (List.mem_singleton.2 rfl)

/-- The names that occur in the tree may be read, and its targets may be assigned. -/
structure Within (reads assigns : String → Prop) (tree : Tree) : Prop where
  readable : ∀ name ∈ tree.names, reads name
  assignable : ∀ name ∈ tree.targets, assigns name

/-- The property holds of every action that is put together from readings and assignments of
    the names that may be read and assigned, and from answers and failures that do not depend
    on the variables. -/
structure Composes (reads assigns : String → Prop) (holds : Step Variables Int → Prop) : Prop where
  answer (result : Except Stop Int) : holds (Step.ofExcept result)
  read {name : String} (may : reads name) : holds (Variables.read name)
  assign {name : String} (may : assigns name) (value : Int) : holds (do Variables.assign name value; return value)
  bind {action : Step Variables Int} {next : Int → Step Variables Int} (first : holds action)
    (later : ∀ value, holds (next value)) : holds (action >>= next)

section
variable {reads assigns : String → Prop} {holds : Step Variables Int → Prop}

theorem Within.child (within : Within reads assigns (node kind label children)) (member : tree ∈ children) :
    Within reads assigns tree :=
  ⟨fun name occurs => within.readable name (names_of_mem member occurs),
    fun name assigned => within.assignable name (targets_of_mem member assigned)⟩

theorem Composes.leafValue (composes : Composes reads assigns holds)
    (within : Within reads assigns (node kind label children)) : holds (eval.leafValue kind label) := by
  unfold eval.leafValue
  split_ifs with constant named
  · cases label with
    | number value => exact composes.answer (.ok value)
    | text content => exact composes.answer _
  · subst named
    exact composes.read (within.readable _ (mem_names_variable label children))
  · exact composes.answer (.error _)

/-- The property holds of every evaluation that stays within the names that may be read and
    assigned. -/
theorem Composes.eval (composes : Composes reads assigns holds) (within : Within reads assigns tree) :
    holds tree.eval := by
  have fails : ∀ stop, holds (throw stop) := fun stop => composes.answer (.error stop)
  -- One case for each way in which a node with two operands, one or none is evaluated.
  induction tree using Tree.eval.induct with
  | case1 left right tail named onRight =>
    have assigns := composes.assign (within.assignable _ (mem_targets_assign named _))
    rw [Tree.eval, if_pos rfl, if_pos rfl, if_pos named]
    exact composes.bind (onRight (within.child (by simp))) assigns
  | case2 left right tail other =>
    rw [Tree.eval, if_pos rfl, if_pos rfl, if_neg other]
    exact fails _
  | case3 label left right tail other onLeft onRight =>
    rw [Tree.eval, if_pos rfl, if_neg other]
    refine composes.bind (onLeft (within.child (by simp))) fun first => ?_
    refine composes.bind (onRight (within.child (by simp))) fun second => ?_
    split
    · exact composes.answer _
    · exact fails _
  | case5 left named =>
    rw [Tree.eval, if_pos rfl, if_pos rfl, if_pos named]
    exact fails _
  | case6 left other =>
    rw [Tree.eval, if_pos rfl, if_pos rfl, if_neg other]
    exact fails _
  | case7 label left other onLeft =>
    rw [Tree.eval, if_pos rfl, if_neg other]
    exact composes.bind (onLeft (within.child (by simp))) fun _ => fails _
  | case9 label =>
    rw [Tree.eval, if_pos rfl]
    exact fails _
  | case4 kind label left right tail other | case8 kind label left other | case10 kind label other =>
    rw [Tree.eval, if_neg other]
    exact composes.leafValue within

end

/-- Actions may treat variables alike that agree on the names that are read. -/
theorem composes_agree (shared : String → Prop) :
    Composes shared (fun _ => True) fun action =>
      Step.Agree (Variables.SameOn shared) (Variables.SameOn shared) (Variables.SameOn shared) action action where
  answer result := Step.agree_ofExcept result fun _ _ same => same
  read known := Variables.agree_read known
  assign _ value := (Variables.agree_assign _ value).bind fun _ => Step.agree_pure value fun _ _ same => same
  bind first later := first.bind later

/-- Actions may frame what they start with, up to the names that are assigned. -/
theorem composes_framed (allowed : String → Prop) (start : Variables) :
    Composes (fun _ => True) allowed fun action => Step.Keeps (start.Framed allowed) (fun _ => True) action where
  answer result := (Step.leaves_ofExcept result : Step.Leaves (fun vars : Variables => vars) _).keeps (start.Framed allowed)
  read _ := (Expr.leaves_read _).keeps (start.Framed allowed)
  assign permitted value := fun _ framed => ⟨trivial, framed.trans (Variables.framed_set permitted _ value)⟩
  bind first later := first.bind fun value _ => later value

/-- Variables that agree on the names in a tree give it the same value, or let it fail in the
    same way, and agree on these names afterwards. Whatever the variables are and however the
    evaluation ends, none has become undefined, and only those have changed that stand directly
    on the left of an `=`. -/
theorem eval_noninterference {one other : Variables} (alike : ∀ name ∈ tree.names, one.get? name = other.get? name) :
    (tree.eval.outcome one).1 = (tree.eval.outcome other).1 ∧
      (∀ name ∈ tree.names, (tree.eval.reached one).get? name = (tree.eval.reached other).get? name) ∧
      ∀ vars : Variables, vars.Framed (· ∈ tree.targets) (tree.eval.reached vars) := by
  have agree := (composes_agree (· ∈ tree.names)).eval ⟨fun _ occurs => occurs, fun _ _ => trivial⟩
  obtain ⟨answers, same⟩ := agree.outcome alike
  refine ⟨answers, same, fun vars => ?_⟩
  have framed := (composes_framed (· ∈ tree.targets) vars).eval ⟨fun _ _ => trivial, fun _ assigned => assigned⟩
  exact framed.reached (.refl _ vars)

/-- The tree of `(x = x + 1) / (y = 0)`. -/
def failing : Tree :=
  Expr.toTree (.binary (.arithmetic .divide)
    (.binary .assign (.identifier "x") (.binary (.arithmetic .add) (.identifier "x") (.constant 1)))
    (.binary .assign (.identifier "y") (.constant 0)))

/-- With 1 in `x` it fails after `x` and `y` have been assigned, whatever is in `z`, which it
    leaves alone. -/
theorem eval_noninterference_failing :
    (failing.eval.outcome ⟨[("z", 7), ("x", 1)]⟩).1 = .error (.fault .divisionByZero) ∧
      (failing.eval.reached ⟨[("z", 7), ("x", 1)]⟩).get? "x" = some 2 ∧
      (failing.eval.reached ⟨[("z", 7), ("x", 1)]⟩).get? "y" = some 0 ∧
      (failing.eval.reached ⟨[("z", 7), ("x", 1)]⟩).get? "z" = some 7 := by
  have alike : ∀ name ∈ failing.names,
      Variables.get? ⟨[("x", 1), ("z", 5)]⟩ name = Variables.get? ⟨[("z", 7), ("x", 1)]⟩ name := by decide
  have evaluated : failing.eval ⟨[("x", 1), ("z", 5)]⟩ =
      .error (.fault .divisionByZero) ⟨[("x", 2), ("z", 5), ("y", 0)]⟩ := rfl
  obtain ⟨answers, same, framed⟩ := eval_noninterference alike
  rw [Step.reached_eq_of_error evaluated] at same
  refine ⟨?_, (same "x" (by decide)).symm, (same "y" (by decide)).symm, ?_⟩
  · rw [← answers, Step.outcome, evaluated]
  · by_contra changed
    exact absurd ((framed ⟨[("z", 7), ("x", 1)]⟩).changed "z" changed) (by decide)

end Tree

end LineBasic
