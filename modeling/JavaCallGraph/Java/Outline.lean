import JavaCallGraph.Java.Tree
import JavaCallGraph.Java.Unit

/-!
# From trees to compilation units

What a tree declares. Calls and local variables belong to the method whose body they stand in, also
inside lambdas and anonymous classes. A named type declared inside a method or an initializer is a
type of its own, nested in the type around it, and its methods keep their own calls; inside an
anonymous class there is no such type to nest it in, and its calls belong to the method around.

* `Tree.expr`, `Tree.call` — expressions and calls.
* `Tree.walk` — what the body of a method holds.
* `Tree.members` — what the body of a type holds.
* `Tree.toUnit` — the unit that a tree declares.
-/

namespace JavaCallGraph.Java

namespace Tree

/-! ## Texts of parts -/

def partText? (r : Role) (t : Tree) : Option String := (t.part? r).map text

def isName (t : Tree) : Bool := t.kind == .identifier || t.kind == .scopedIdentifier

/-! ## Expressions -/

def leafExpr (kind : Kind) (text : String) : Expr :=
  match kind with
  | .identifier => .name text
  | .this => .this
  | .super => .super
  | .stringLiteral => .literal .string
  | .characterLiteral => .literal .char
  | .integerLiteral =>
    .literal (if Text.endsWith "l" text || Text.endsWith "L" text then .long else .int)
  | .floatingLiteral =>
    .literal (if Text.endsWith "f" text || Text.endsWith "F" text then .float else .double)
  | .booleanLiteral => .literal .boolean
  | .nullLiteral => .literal .null
  | kind => .other kind.label

mutual

/-- The expression that a tree stands for. A parenthesized expression stands for the first thing in
its parentheses, be it a comment. -/
def expr : Tree → Expr
  | leaf _ kind t => leafExpr kind t.text
  | node r kind cs =>
    let self := node r kind cs
    match kind with
    | .fieldAccess =>
      match partExpr .object cs, self.partText? .field with
      | some object, some field => .field object field
      | _, _ => .other kind.label
    | .methodInvocation =>
      .call ((self.partText? .name).getD "") (partExpr .object cs) (argumentExprs cs) self.startLine
    | .objectCreation =>
      match self.partText? .type with
      | some type => .creation type
      | none => .other kind.label
    | .cast =>
      match self.partText? .type, partExpr .value cs with
      | some type, some value => .cast type value
      | _, _ => .other kind.label
    | .parenthesized => (firstExpr cs).getD (.other kind.label)
    | .stringLiteral => .literal .string
    | .classLiteral => .literal .classObject
    | kind => .other kind.label

def partExpr (r : Role) : List Tree → Option Expr
  | [] => none
  | c :: cs => if c.role == r then some (expr c) else partExpr r cs

def firstExpr : List Tree → Option Expr
  | [] => none
  | c :: cs => if c.isNamed then some (expr c) else firstExpr cs

def argumentExprs : List Tree → List Expr
  | [] => []
  | c :: cs => if c.role == .arguments then listExprs c else argumentExprs cs

def listExprs : Tree → List Expr
  | leaf _ _ _ => []
  | node _ _ cs => valueExprs cs

/-- The expressions among the children of an argument list, without the comments. -/
def valueExprs : List Tree → List Expr
  | [] => []
  | c :: cs => if c.isNamed && !c.isComment then expr c :: valueExprs cs else valueExprs cs

end

def call (t : Tree) : Call :=
  ⟨(t.partText? .name).getD "", partExpr .object t.children, argumentExprs t.children, t.startLine⟩

/-! ## Variables, parameters and annotations -/

def constructedType (value : Tree) : Option String :=
  if value.kind == .objectCreation then value.partText? .type else none

/-- A type text with the brackets that follow the variable's name. -/
def typeWithDimensions (type : String) (t : Tree) : String :=
  type ++ (t.partText? .dimensions).getD ""

def declarators (t : Tree) : List Variable :=
  match t.partText? .type with
  | none => []
  | some type =>
    (t.parts .declarator).filterMap fun d =>
      (d.partText? .name).map fun name =>
        ⟨name, typeWithDimensions type d, (d.part? .value).bind constructedType⟩

def headVariable (t : Tree) : List Variable :=
  match t.partText? .type, t.partText? .name with
  | some type, some name => [⟨name, type, (t.part? .value).bind constructedType⟩]
  | _, _ => []

/-- The variable of a handler, with the first of its types. -/
def caughtVariable (t : Tree) : List Variable :=
  match (t.named.find? (·.kind == .catchType)).bind (·.named.head?), t.partText? .name with
  | some type, some name => [⟨name, type.text, none⟩]
  | _, _ => []

def isSpreadType (t : Tree) : Bool :=
  [Kind.typeIdentifier, .scopedType, .genericType, .arrayType, .integralType, .floatingType,
    .booleanType].contains t.kind

def param? (t : Tree) : Option Param :=
  match t.kind with
  | .formalParameter => do
    let type ← t.partText? .type
    let name ← t.partText? .name
    some ⟨name, typeWithDimensions type t, false⟩
  | .spreadParameter => do
    let type ← t.named.find? isSpreadType
    let declarator ← t.named.find? (·.kind == .variableDeclarator)
    let name ← declarator.partText? .name
    some ⟨name, type.text ++ "...", true⟩
  | _ => none

def params (t : Tree) : List Param :=
  match t.part? .parameters with
  | some list => list.named.filterMap param?
  | none => []

def paramVariable (t : Tree) : List Variable :=
  (t.param?.map fun p => (⟨p.name, p.type, none⟩ : Variable)).toList

def argument? (t : Tree) : Option Annotation.Argument :=
  if t.kind == .elementPair then
    match t.partText? .key, t.partText? .value with
    | some key, some value => some ⟨some key, value⟩
    | _, _ => none
  else if t.isComment then none
  else some ⟨none, t.text⟩

def annotation? (t : Tree) : Option Annotation :=
  if t.kind == .annotationMark || t.kind == .annotationCall then
    (t.partText? .name).map fun name =>
      ⟨Text.afterLast '.' name, match t.part? .arguments with
        | some list => list.named.filterMap argument?
        | none => []⟩
  else none

def annotations (t : Tree) : List Annotation :=
  match t.children.find? (·.kind == .modifiers) with
  | some modifiers => modifiers.named.filterMap annotation?
  | none => []

/-! ## Types -/

def typeKind? : Kind → Option TypeKind
  | .classDeclaration => some .classType
  | .interfaceDeclaration => some .interfaceType
  | .enumDeclaration => some .enumType
  | .recordDeclaration => some .recordType
  | _ => none

def typeListTexts (clause : Tree) : List String :=
  match clause.named.find? (·.kind == .typeList) with
  | some list => list.named.map text
  | none => []

def nestedName (outer : Option String) (name : String) : String :=
  match outer with
  | some outer => outer ++ "." ++ name
  | none => name

/-- A type as its header declares it: what its body holds is left open. -/
def header? (outer : Option String) (t : Tree) : Option TypeDecl :=
  match typeKind? t.kind, t.partText? .name with
  | some kind, some name =>
    some {
      name
      qualifiedName := nestedName outer name
      kind
      superclass := ((t.part? .superclass).bind (·.named.head?)).map text
      interfaces :=
        match if kind == .interfaceType then t.children.find? (·.kind == .extendsInterfaces)
          else t.part? .interfaces with
        | some clause => typeListTexts clause
        | none => []
      annotations := t.annotations
      fields := if kind == .recordType then t.params.map fun p => ⟨p.name, p.type, none⟩ else []
      methods := []
      types := []
      startLine := t.startLine
      endLine := t.endLine }
  | _, _ => none

structure Members where
  fields : List Variable := []
  methods : List Method := []
  types : List TypeDecl := []
  deriving Inhabited

def Members.append (m n : Members) : Members :=
  ⟨m.fields ++ n.fields, m.methods ++ n.methods, m.types ++ n.types⟩

instance : Append Members := ⟨Members.append⟩

def withMembers (d : TypeDecl) (m : Members) : TypeDecl :=
  { d with fields := d.fields ++ m.fields, methods := m.methods, types := m.types }

structure Found where
  locals : List Variable := []
  calls : List Call := []
  types : List TypeDecl := []
  deriving Inhabited

def Found.append (f g : Found) : Found :=
  ⟨f.locals ++ g.locals, f.calls ++ g.calls, f.types ++ g.types⟩

instance : Append Found := ⟨Found.append⟩

def methodWith (t : Tree) (found : Found) : Method where
  name := (t.partText? .name).getD ""
  returnType := if t.kind == .methodDeclaration then t.partText? .type else none
  params := t.params
  locals := found.locals
  calls := found.calls
  annotations := t.annotations
  isConstructor := t.kind != .methodDeclaration
  hasBody := (t.part? .body).isSome
  startLine := t.startLine
  endLine := t.endLine

mutual

/-- What a stretch of code holds, in the order of the text: an outer call comes before those in its
receiver and arguments. Named types are nested in `owner`; without an owner they are walked through
like any other code. -/
def walk (owner : Option String) : Tree → Found
  | leaf _ _ _ => {}
  | node r kind cs =>
    let self := node r kind cs
    match kind with
    | .token => {}
    | .methodInvocation => { calls := [self.call] } ++ walkAll owner cs
    | .localVariableDeclaration => { locals := self.declarators } ++ walkAll owner cs
    | .enhancedFor | .resource => { locals := self.headVariable } ++ walkAll owner cs
    | .catchFormalParameter => { locals := self.caughtVariable } ++ walkAll owner cs
    | .formalParameter | .spreadParameter => { locals := self.paramVariable } ++ walkAll owner cs
    | .classBody => walkAll none cs
    | .classDeclaration | .interfaceDeclaration | .enumDeclaration | .recordDeclaration =>
      match owner.bind fun o => header? (some o) self with
      | some decl => { types := [withMembers decl (bodyMembers decl.qualifiedName cs)] }
      | none => walkAll none cs
    | _ => walkAll owner cs

def walkAll (owner : Option String) : List Tree → Found
  | [] => {}
  | c :: cs => walk owner c ++ walkAll owner cs

/-- What the body among the children of a method holds. -/
def bodyFound (owner : String) : List Tree → Found
  | [] => {}
  | c :: cs => if c.role == .body then walk (some owner) c else bodyFound owner cs

def bodyMembers (owner : String) : List Tree → Members
  | [] => {}
  | c :: cs => if c.role == .body then membersOf owner c else bodyMembers owner cs

def membersOf (owner : String) : Tree → Members
  | leaf _ _ _ => {}
  | node _ _ cs => members owner cs

def members (owner : String) : List Tree → Members
  | [] => {}
  | c :: cs => member owner c ++ members owner cs

def member (owner : String) : Tree → Members
  | leaf _ _ _ => {}
  | node r kind cs =>
    let self := node r kind cs
    match kind with
    | .fieldDeclaration | .constantDeclaration =>
      { fields := self.declarators, types := (walkAll (some owner) cs).types }
    | .methodDeclaration | .constructorDeclaration | .compactConstructorDeclaration =>
      let found := bodyFound owner cs
      { methods := [self.methodWith found], types := found.types }
    | .enumBodyDeclarations => members owner cs
    | .block | .staticInitializer => { types := (walkAll (some owner) cs).types }
    | _ =>
      match header? (some owner) self with
      | some decl => { types := [withMembers decl (bodyMembers decl.qualifiedName cs)] }
      | none => {}

end

/-! ## Units -/

def topType? (t : Tree) : Option TypeDecl :=
  (header? none t).map fun decl => withMembers decl (bodyMembers decl.qualifiedName t.children)

def packageName? (t : Tree) : Option String := (t.named.find? isName).map text

def import? (t : Tree) : Option Import :=
  (t.children.reverse.find? isName).map fun path =>
    ⟨path.text, t.children.any fun c => c.kind == .token && c.text == "static",
      t.children.any (·.kind == .asterisk)⟩

/-- The unit that a tree declares. The last package declaration counts. -/
def toUnit (path source : String) (t : Tree) : CompilationUnit where
  path
  source
  package := match t.named.reverse.find? (·.kind == .packageDeclaration) with
    | some declaration => declaration.packageName?
    | none => none
  imports := (t.named.filter (·.kind == .importDeclaration)).filterMap import?
  types := t.named.filterMap topType?

end Tree

end JavaCallGraph.Java
