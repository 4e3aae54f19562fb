import JavaCallGraph.Java.Token

/-!
# Concrete trees of Java text

The tree of a compilation unit. Leaves are tokens, comments included, each with the blanks before
it, so a tree holds the text that it was read from; inner nodes say what a stretch of text is, and
every node knows which part of its parent it plays.

* `Kind` — what a node is; `Kind.label` spells it.
* `Role` — which part of its parent a node plays.
* `Tree` with `kind`, `role`, `children`, `text`, `startLine`, `endLine`.
* `Tree.part?`, `Tree.parts`, `Tree.named` — access to children.
-/

namespace JavaCallGraph.Java

/-! ## Kinds and roles -/

inductive Kind where
  -- leaves
  | token | identifier | typeIdentifier | asterisk | this | super | lineComment | blockComment
  | integerLiteral | floatingLiteral | characterLiteral | stringLiteral | booleanLiteral | nullLiteral
  -- types
  | voidType | integralType | floatingType | booleanType | scopedType | genericType | arrayType
  | annotatedType | typeArguments | wildcard | dimensions
  -- names and annotations
  | scopedIdentifier | modifiers | annotationMark | annotationCall | annotationArguments | elementPair
  | elementArray
  -- declarations
  | unit | packageDeclaration | importDeclaration | moduleDeclaration | moduleBody | moduleDirective
  | classDeclaration | interfaceDeclaration | enumDeclaration | recordDeclaration
  | annotationTypeDeclaration | annotationTypeBody | annotationElement
  | typeParameters | typeParameter | typeBound | superclass | superInterfaces | extendsInterfaces
  | permits | typeList | classBody | interfaceBody | enumBody | enumConstant | enumBodyDeclarations
  | fieldDeclaration | constantDeclaration | methodDeclaration | constructorDeclaration
  | compactConstructorDeclaration | constructorBody | constructorInvocation | staticInitializer
  | formalParameters | formalParameter | spreadParameter | receiverParameter | inferredParameters
  | throws | variableDeclarator | arrayInitializer | underscore
  -- statements
  | block | localVariableDeclaration | expressionStatement | enhancedFor | resource
  | resourceSpecification | catchClause | catchFormalParameter | catchType | finallyClause
  | switchBlock | switchGroup | switchRule | switchLabel | pattern | guard | statement
  -- expressions
  | argumentList | arrayAccess | arrayCreation | dimensionsExpression | assignment | binary | cast
  | classLiteral | fieldAccess | instanceOf | lambda | methodInvocation | methodReference
  | objectCreation | parenthesized | switchExpression | template | ternary | unary | update
  | embeddedExpression
  deriving DecidableEq, Repr, Inhabited

def Kind.label : Kind → String
  | .lineComment => "line_comment"
  | .blockComment => "block_comment"
  | .arrayAccess => "array_access"
  | .arrayCreation => "array_creation_expression"
  | .assignment => "assignment_expression"
  | .binary => "binary_expression"
  | .cast => "cast_expression"
  | .classLiteral => "class_literal"
  | .fieldAccess => "field_access"
  | .instanceOf => "instanceof_expression"
  | .lambda => "lambda_expression"
  | .methodInvocation => "method_invocation"
  | .methodReference => "method_reference"
  | .objectCreation => "object_creation_expression"
  | .parenthesized => "parenthesized_expression"
  | .switchExpression => "switch_expression"
  | .template => "template_expression"
  | .ternary => "ternary_expression"
  | .unary => "unary_expression"
  | .update => "update_expression"
  | _ => "node"

inductive Role where
  | none | name | type | body | parameters | superclass | interfaces | declarator | dimensions | value
  | arguments | object | field | key | left | right | scope | condition | operand | element | array
  deriving DecidableEq, Repr, Inhabited

/-! ## Trees -/

/-- A leaf holds a token; a node holds its parts in the order of the text. -/
inductive Tree where
  | leaf (role : Role) (kind : Kind) (token : Token)
  | node (role : Role) (kind : Kind) (children : List Tree)
  deriving Repr, Inhabited

namespace Tree

def kind : Tree → Kind
  | leaf _ k _ => k
  | node _ k _ => k

def role : Tree → Role
  | leaf r _ _ => r
  | node r _ _ => r

def children : Tree → List Tree
  | leaf _ _ _ => []
  | node _ _ cs => cs

def withRole (r : Role) : Tree → Tree
  | leaf _ k t => leaf r k t
  | node _ k cs => node r k cs

/-- Keywords and punctuation are the nodes without a name. -/
def isNamed (t : Tree) : Bool := t.kind != .token

def isComment (t : Tree) : Bool := t.kind == .lineComment || t.kind == .blockComment

/-! ## Parts -/

def named (t : Tree) : List Tree := t.children.filter isNamed

def part? (r : Role) (t : Tree) : Option Tree := t.children.find? fun c => c.role == r

def parts (r : Role) (t : Tree) : List Tree := t.children.filter fun c => c.role == r

/-! ## Text and lines -/

mutual

def tokens : Tree → List Token
  | leaf _ _ t => [t]
  | node _ _ cs => tokensList cs

def tokensList : List Tree → List Token
  | [] => []
  | c :: cs => tokens c ++ tokensList cs

end

/-- The text of a tree: its tokens with the blanks between them. -/
def text (t : Tree) : String :=
  match t.tokens with
  | [] => ""
  | first :: rest => rest.foldl (fun acc tok => acc ++ tok.gap ++ tok.text) first.text

def startLine (t : Tree) : Nat := (t.tokens.head?.map (·.line)).getD 1

def endLine (t : Tree) : Nat := (t.tokens.getLast?.map Token.endLine).getD 1

end Tree

end JavaCallGraph.Java
