import Polyquery.Expr

/-!
# Trees with other field paths

* `Expr.mapFields` - the tree with every field path replaced, at any depth;
* `Expr.mapFieldsList_eq`, `Expr.mapFieldsBranches_eq`, `Expr.mapFieldsOption_eq` - the same of the
  parts of a node.
-/

namespace Polyquery.Expr

section MapFields

variable (rename : String → String)

mutual

/-- The tree with every field path replaced. -/
def mapFields : Expr → Expr
  | .field path => .field (rename path)
  | .literal value => .literal value
  | .compare op left right => .compare op (mapFields left) (mapFields right)
  | .logical op args => .logical op (mapFieldsList args)
  | .not arg => .not (mapFields arg)
  | .arithmetic op left right => .arithmetic op (mapFields left) (mapFields right)
  | .call func args => .call func (mapFieldsList args)
  | .regexMatch input regex options => .regexMatch (mapFields input) regex options
  | .cond condition yes no => .cond (mapFields condition) (mapFields yes) (mapFields no)
  | .switch branches default => .switch (mapFieldsBranches branches) (mapFieldsOption default)
  | .custom name args => .custom name (mapFieldsList args)

/-- Trees in a list. -/
def mapFieldsList : List Expr → List Expr
  | [] => []
  | e :: rest => mapFields e :: mapFieldsList rest

/-- Conditions and values of branches. -/
def mapFieldsBranches : List (Expr × Expr) → List (Expr × Expr)
  | [] => []
  | (condition, value) :: rest => (mapFields condition, mapFields value) :: mapFieldsBranches rest

/-- An optional tree. -/
def mapFieldsOption : Option Expr → Option Expr
  | none => none
  | some e => some (mapFields e)

end

@[simp] theorem mapFieldsList_eq (args : List Expr) :
    mapFieldsList rename args = args.map (mapFields rename) := by
  induction args with
  | nil => rfl
  | cons e rest ih => rw [mapFieldsList, ih, List.map_cons]

@[simp] theorem mapFieldsBranches_eq (branches : List (Expr × Expr)) :
    mapFieldsBranches rename branches
      = branches.map (Prod.map (mapFields rename) (mapFields rename)) := by
  induction branches with
  | nil => rfl
  | cons branch rest ih => rw [mapFieldsBranches, ih, List.map_cons, Prod.map]

@[simp] theorem mapFieldsOption_eq (e : Option Expr) :
    mapFieldsOption rename e = e.map (mapFields rename) := by
  cases e <;> rfl

end MapFields

end Polyquery.Expr
