import ErrorUnion.Decl.Basic

/- The identifiers in declarations: what they define, the type that methods are for, and the
   fields, methods and variants that bodies name. Variables and parameters are fixed words of the
   generators, and types and paths are texts of several names; these are not gathered. -/
namespace ErrorUnion

@[simp] def Pattern.identifiers : Pattern → List String
  | .verbatim _ => []
  | .variant union name _ => [union, name]
  | .present _ => []

mutual

@[simp] def Expr.identifiers : Expr → List String
  | .verbatim _ | .var _ | .unit | .path _ | .literal _ | .initial _ => []
  | .field o n => n :: o.identifiers
  | .method o n args => n :: (o.identifiers ++ argIdentifiers args)
  | .call _ args => argIdentifiers args
  | .record _ fields => fieldIdentifiers fields
  | .assign p v => p.identifiers ++ v.identifiers
  | .attempt e => e.identifiers
  | .matches e p => e.identifiers ++ p.identifiers
  | .write t _ v => t.identifiers ++ v.identifiers

@[simp] def argIdentifiers : List Expr → List String
  | [] => []
  | e :: r => e.identifiers ++ argIdentifiers r

@[simp] def fieldIdentifiers : List (String × Expr) → List String
  | [] => []
  | (n, e) :: r => n :: (e.identifiers ++ fieldIdentifiers r)

end

mutual

@[simp] def Stmt.identifiers : Stmt → List String
  | .run e => e.identifiers
  | .result e => e.identifiers
  | .ifLet p v body => p.identifiers ++ v.identifiers ++ stmtIdentifiers body

@[simp] def stmtIdentifiers : List Stmt → List String
  | [] => []
  | s :: r => s.identifiers ++ stmtIdentifiers r

end

def ArmBody.identifiers : ArmBody → List String
  | .expr e => e.identifiers
  | .block body => stmtIdentifiers body

def Arm.identifiers (a : Arm) : List String := a.pattern.identifiers ++ a.body.identifiers

def Body.identifiers : Body → List String
  | .block stmts => stmtIdentifiers stmts
  | .cases subject arms => subject.identifiers ++ arms.flatMap Arm.identifiers

def Function.identifiers (f : Function) : List String := f.name :: f.body.identifiers

def MethodsDecl.identifiers (d : MethodsDecl) : List String :=
  d.target :: d.functions.flatMap Function.identifiers

def RecordDecl.identifiers (d : RecordDecl) : List String := d.name :: d.fields.map FieldDecl.name

def UnionDecl.identifiers (d : UnionDecl) : List String :=
  d.name :: d.variants.map VariantDecl.name

mutual

def Item.identifiers : Item → List String
  | .record d => d.identifiers
  | .union d => d.identifiers
  | .methods d => d.identifiers
  | .module _ _ name items => name :: itemIdentifiers items

def itemIdentifiers : List Item → List String
  | [] => []
  | i :: r => i.identifiers ++ itemIdentifiers r

end

theorem item_identifiers_flat_map (items : List Item) :
    itemIdentifiers items = items.flatMap Item.identifiers := by
  induction items with
  | nil => rfl
  | cons i r ih => rw [itemIdentifiers, ih, List.flatMap_cons]

@[simp] theorem block_identifiers (stmts : List Stmt) :
    (Body.block stmts).identifiers = stmtIdentifiers stmts := rfl

@[simp] theorem method_identifiers (name : String) (params : List Param) (returns : Option String)
    (body : Body) :
    (Function.method name params returns body).identifiers = name :: body.identifiers := rfl

@[simp] theorem with_docs_identifiers (f : Function) (docs : List String) :
    (f.withDocs docs).identifiers = f.identifiers := rfl

@[simp] theorem with_visibility_identifiers (f : Function) (v : Visibility) :
    (f.withVisibility v).identifiers = f.identifiers := rfl

@[simp] theorem value_identifiers (e : Expr) : (Body.value e).identifiers = e.identifiers := by
  simp [Body.value]

end ErrorUnion
