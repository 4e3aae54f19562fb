import JavaCallGraph.Java.Pattern

/-!
# The grammar of Java text

The patterns of a compilation unit: declarations, statements, expressions and types. The grammar is
generous. A unit is any list of declarations, statements and methods, any expression is a statement,
and a word is a keyword only where the grammar has a use for it, so that `record` or `goto` can name
things.

* `Rule` — the names of the patterns that refer to each other.
* `grammar` — the pattern of each rule.
-/

namespace JavaCallGraph.Java

/-! ## Words with a use -/

def primitiveWords : List String :=
  ["byte", "short", "int", "long", "char", "float", "double", "boolean", "void"]

def modifierWords : List String :=
  ["public", "protected", "private", "abstract", "static", "final", "strictfp", "default",
    "synchronized", "native", "transient", "volatile", "sealed"]

def operandWords : List String := ["this", "super", "new", "true", "false", "null", "switch"]

def expressionWords : List String := operandWords ++ primitiveWords

/-- Words that start a statement or a declaration and nothing else. -/
def openingWords : List String :=
  ["if", "while", "for", "do", "try", "return", "break", "continue", "throw", "assert", "class",
    "interface", "enum", "package", "import"]

/-- Words with a use of their own that may still be names. -/
def softWords : List String := ["open", "module", "record", "with", "sealed", "yield"]

def notLocalTypes : List String := openingWords ++ modifierWords ++ operandWords ++ softWords

def notExpressions : List String := openingWords ++ modifierWords.filter (· != "sealed")

def notMembers : List String := modifierWords ++ ["class", "interface", "enum", "record"]

def dottedWords : List String := ["class", "this", "super", "new"]

/-! ## Rules -/

/-- The patterns that are referred to by name. `lambdas` says whether an arrow makes a lambda: after
`case` it ends the label instead. `inSwitch` says whether `case` starts a label. -/
inductive Rule where
  | unit | declaration | typeDeclaration | member | interfaceMember | annotationMember
  | modifiers | annotationUse | elementValue | elementPair
  | type | unannotatedType | simpleType | typeArguments | typeParameters | dimensions
  | formalParameters | formalParameter | variableDeclarator | variableInitializer
  | classBody | enumConstant | methodDeclaration | qualifiedName | moduleDirective
  | statement (inSwitch : Bool) | block | localVariable | resource | catchClause | finallyClause
  | switchBlock | switchLabel | recordPattern | constructorInvocation
  | level (lambdas : Bool) (depth : Nat) | operand (lambdas : Bool) | lambda
  | primary | creation | parenthesized | arguments | switchExpression | string
  deriving DecidableEq, Repr

abbrev JavaPattern := Pattern Rule

namespace Grammar

open Pattern

/-! ## Pieces of patterns -/

def tok (text : String) : JavaPattern := token (.spelled [text]) .token

def anyTok (texts : List String) : JavaPattern := token (.spelled texts) .token

/-- A name, where the given words have another use. -/
def ident (keywords : List String) : JavaPattern := token (.word keywords) .identifier

def ref (r : Rule) : JavaPattern := rule r

def sepBy1 (separator : String) (item : JavaPattern) : JavaPattern :=
  seq item (many (seq (tok separator) item))

def commaSep (item : JavaPattern) : JavaPattern := opt (sepBy1 "," item)

def notStarting (words : List String) (p : JavaPattern) : JavaPattern := excluding (anyTok words) p

def expression : JavaPattern := ref (.level true 0)

/-- An expression of a `case` label. -/
def labelExpression : JavaPattern := ref (.level false 0)

def annotations : JavaPattern := many (ref .annotationUse)

def variableId (keywords : List String) : JavaPattern :=
  seq (role .name (ident keywords)) (opt (role .dimensions (ref .dimensions)))

def declarators : JavaPattern := sepBy1 "," (role .declarator (ref .variableDeclarator))

def condition : JavaPattern := role .condition (ref .parenthesized)

def bodyBlock : JavaPattern := role .body (ref .block)

def bodyStatement : JavaPattern := role .body (ref (.statement false))

def keywordStatement (keyword : String) (rest : List JavaPattern) : JavaPattern :=
  node .statement (seqs (tok keyword :: rest))

def braced (item : JavaPattern) : JavaPattern :=
  seqs [tok "\x7b", commaSep item, opt (tok ","), tok "\x7d"]

def inBraces (item : JavaPattern) : JavaPattern := seqs [tok "\x7b", many item, tok "\x7d"]

def typeList : JavaPattern := node .typeList (sepBy1 "," (ref .type))

def superInterfaces : JavaPattern :=
  opt (role .interfaces (node .superInterfaces (seq (tok "implements") typeList)))

def permits : JavaPattern := opt (node .permits (seq (tok "permits") typeList))

def typeParameters : JavaPattern := opt (ref .typeParameters)

def throws : JavaPattern := opt (node .throws (seq (tok "throws") (sepBy1 "," (ref .type))))

def parameters : JavaPattern := role .parameters (ref .formalParameters)

def typeName : JavaPattern := role .name (ident [])

/-! ## Declarations -/

def declaration : JavaPattern :=
  alts
    [node .packageDeclaration
        (seqs [annotations, tok "package", ref .qualifiedName, tok ";"]),
      node .importDeclaration
        (seqs [tok "import", opt (tok "static"), ref .qualifiedName,
          opt (seq (tok ".") (token (.spelled ["*"]) .asterisk)), tok ";"]),
      ref .typeDeclaration,
      node .moduleDeclaration
        (seqs [annotations, opt (tok "open"), tok "module", ref .qualifiedName,
          node .moduleBody (inBraces (ref .moduleDirective))])]

def typeDeclaration : JavaPattern :=
  alts
    [node .classDeclaration
        (seqs [opt (ref .modifiers), tok "class", typeName, typeParameters,
          opt (role .superclass (node .superclass (seq (tok "extends") (ref .type)))),
          superInterfaces, permits, role .body (ref .classBody)]),
      node .interfaceDeclaration
        (seqs [opt (ref .modifiers), tok "interface", typeName, typeParameters,
          opt (node .extendsInterfaces (seq (tok "extends") typeList)), permits,
          role .body (node .interfaceBody (inBraces (ref .interfaceMember)))]),
      node .enumDeclaration
        (seqs [opt (ref .modifiers), tok "enum", typeName, superInterfaces,
          role .body (node .enumBody
            (seqs [tok "\x7b", commaSep (ref .enumConstant), opt (tok ","),
              opt (node .enumBodyDeclarations (seq (tok ";") (many (ref .member)))),
              tok "\x7d"]))]),
      node .recordDeclaration
        (seqs [opt (ref .modifiers), tok "record", typeName, typeParameters, parameters,
          superInterfaces, role .body (ref .classBody)]),
      node .annotationTypeDeclaration
        (seqs [opt (ref .modifiers), glued ["@", "interface"], typeName,
          role .body (node .annotationTypeBody (inBraces (ref .annotationMember)))])]

/-- Variables of a type: the shape of fields, constants and local variables. -/
def typedDeclarators (notTypes : List String) : JavaPattern :=
  seqs [opt (ref .modifiers), notStarting notTypes (role .type (ref .unannotatedType)), declarators,
    tok ";"]

def methodDeclaration : JavaPattern :=
  node .methodDeclaration
    (seqs [opt (ref .modifiers), opt (seq (ref .typeParameters) annotations),
      notStarting notMembers (role .type (ref .unannotatedType)),
      role .name (ident []), parameters, opt (role .dimensions (ref .dimensions)), throws,
      alt bodyBlock (tok ";")])

def member : JavaPattern :=
  alts
    [tok ";",
      ref .block,
      node .staticInitializer (seq (tok "static") (ref .block)),
      ref .typeDeclaration,
      node .constructorDeclaration
        (seqs [opt (ref .modifiers), typeParameters,
          role .name (ident (notMembers ++ primitiveWords)), parameters, throws,
          role .body (node .constructorBody
            (seqs [tok "\x7b", opt (ref .constructorInvocation), many (ref (.statement false)),
              tok "\x7d"]))]),
      node .compactConstructorDeclaration
        (seqs [opt (ref .modifiers), role .name (ident (notMembers ++ primitiveWords)), bodyBlock]),
      ref .methodDeclaration,
      node .fieldDeclaration (typedDeclarators notMembers)]

def interfaceMember : JavaPattern :=
  alts
    [tok ";", ref .typeDeclaration, ref .methodDeclaration,
      node .constantDeclaration (typedDeclarators notMembers)]

def annotationMember : JavaPattern :=
  alts
    [tok ";", excluding (seq (opt (ref .modifiers)) (tok "record")) (ref .typeDeclaration),
      node .annotationElement
        (seqs [opt (ref .modifiers), notStarting notMembers (role .type (ref .unannotatedType)),
          role .name (ident []), tok "(", tok ")", opt (role .dimensions (ref .dimensions)),
          opt (seq (tok "default") (role .value (ref .elementValue))), tok ";"]),
      node .constantDeclaration (typedDeclarators notMembers)]

def moduleDirective : JavaPattern :=
  node .moduleDirective
    (alts
      [seqs [tok "requires", many (seq (anyTok ["transitive", "static"]) (ahead (ident []))),
          ref .qualifiedName, tok ";"],
        seqs [anyTok ["exports", "opens"], ref .qualifiedName,
          opt (seq (tok "to") (sepBy1 "," (ref .qualifiedName))), tok ";"],
        seqs [tok "uses", ref .qualifiedName, tok ";"],
        seqs [tok "provides", ref .qualifiedName, tok "with", sepBy1 "," (ref .qualifiedName),
          tok ";"]])

/-! ## Annotations -/

def annotationUse : JavaPattern :=
  let named := seq (excluding (glued ["@", "interface"]) (tok "@"))
    (role .name (ref .qualifiedName))
  alt
    (node .annotationCall
      (seq named (role .arguments (node .annotationArguments
        (alt (seqs [tok "(", commaSep (ref .elementPair), tok ")"])
          (seqs [tok "(", ref .elementValue, tok ")"]))))))
    (node .annotationMark named)

def elementValue : JavaPattern :=
  alts [expression, node .elementArray (braced (ref .elementValue)), ref .annotationUse]

def modifiers : JavaPattern :=
  node .modifiers
    (many1 (alts [ref .annotationUse, anyTok modifierWords, glued ["non", "-", "sealed"]]))

/-! ## Types -/

/-- A type without annotations in front and without brackets behind. -/
def simpleType : JavaPattern :=
  let typeIdent (keywords : List String) := token (.word keywords) .typeIdentifier
  alts
    [token (.spelled ["void"]) .voidType,
      token (.spelled ["byte", "short", "int", "long", "char"]) .integralType,
      token (.spelled ["float", "double"]) .floatingType,
      token (.spelled ["boolean"]) .booleanType,
      grow (typeIdent primitiveWords)
        (alt
          (after [.typeIdentifier, .scopedType] .none .genericType (ref .typeArguments))
          (after [.typeIdentifier, .scopedType, .genericType] .none .scopedType
            (seqs [tok ".", annotations, typeIdent dottedWords])))]

def typeArguments : JavaPattern :=
  let wildcard := node .wildcard
    (seqs [annotations, tok "?",
      opt (alt (seq (tok "extends") (ref .type))
        (seq (token (.spelled ["super"]) .super) (ref .type)))])
  node .typeArguments (seqs [tok "<", commaSep (alt wildcard (ref .type)), tok ">"])

def typeParameterList : JavaPattern :=
  node .typeParameters
    (seqs [tok "<",
      sepBy1 "," (node .typeParameter
        (seqs [annotations, token (.word []) .typeIdentifier,
          opt (node .typeBound (seq (tok "extends") (sepBy1 "&" (ref .type))))])),
      tok ">"])

/-! ## Parameters and variables -/

def formalParameters : JavaPattern :=
  let receiver := node .receiverParameter
    (seqs [annotations, ref .unannotatedType, many (seq (ident ["this"]) (tok ".")),
      token (.spelled ["this"]) .this])
  node .formalParameters
    (alts
      [seqs [tok "(", receiver, tok ")"],
        seqs [tok "(", opt (seq receiver (tok ",")), commaSep (ref .formalParameter), tok ")"]])

def formalParameter : JavaPattern :=
  alt
    (node .formalParameter
      (seqs [opt (ref .modifiers), role .type (ref .unannotatedType), variableId ["this"]]))
    (node .spreadParameter
      (seqs [opt (ref .modifiers), ref .unannotatedType, tok "...", annotations,
        ref .variableDeclarator]))

/-! ## Statements -/

def statement (inSwitch : Bool) : JavaPattern :=
  let notFirst (words : List String) (p : JavaPattern) :=
    notStarting (if inSwitch then "case" :: words else words) p
  alts
    [ref .block,
      tok ";",
      keywordStatement "if"
        [condition, ref (.statement false), opt (seq (tok "else") (ref (.statement false)))],
      keywordStatement "while" [condition, bodyStatement],
      node .enhancedFor
        (seqs [tok "for", tok "(", opt (ref .modifiers), role .type (ref .unannotatedType),
          variableId [], tok ":", role .value expression, tok ")", bodyStatement]),
      keywordStatement "for"
        [tok "(", alt (ref .localVariable) (seq (commaSep expression) (tok ";")),
          opt (role .condition expression), tok ";", commaSep expression, tok ")", bodyStatement],
      keywordStatement "do" [bodyStatement, tok "while", condition, tok ";"],
      keywordStatement "try"
        [bodyBlock,
          alt (seq (many1 (ref .catchClause)) (opt (ref .finallyClause))) (ref .finallyClause)],
      keywordStatement "try"
        [node .resourceSpecification
            (seqs [tok "(", sepBy1 ";" (ref .resource), opt (tok ";"), tok ")"]),
          bodyBlock, many (ref .catchClause), opt (ref .finallyClause)],
      keywordStatement "return" [opt expression, tok ";"],
      keywordStatement "break" [opt (ident []), tok ";"],
      keywordStatement "continue" [opt (ident []), tok ";"],
      keywordStatement "throw" [expression, tok ";"],
      keywordStatement "assert" [expression, opt (seq (tok ":") expression), tok ";"],
      keywordStatement "synchronized" [ref .parenthesized, bodyBlock],
      ref .declaration,
      notFirst [] (ref .localVariable),
      notFirst notLocalTypes
        (node .statement (seqs [ident expressionWords, tok ":", ref (.statement false)])),
      seq (ref .switchExpression) (opt (tok ";")),
      notFirst notExpressions (node .expressionStatement (seq expression (tok ";"))),
      keywordStatement "yield" [expression, tok ";"]]

def resource : JavaPattern :=
  node .resource
    (alts
      [seqs [opt (ref .modifiers), role .type (ref .unannotatedType), variableId [], tok "=",
          role .value expression],
        only .fieldAccess (ref .primary),
        ident expressionWords])

def catchClause : JavaPattern :=
  node .catchClause
    (seqs [tok "catch", tok "(",
      node .catchFormalParameter
        (seqs [opt (ref .modifiers), node .catchType (sepBy1 "|" (ref .unannotatedType)),
          variableId []]),
      tok ")", bodyBlock])

/-! ## Switches and patterns -/

/-- The alternatives of a switch, all with arrows or all with colons. -/
def switchBlock : JavaPattern :=
  let rule := node .switchRule
    (seqs [ref .switchLabel, tok "->",
      alts [node .expressionStatement (seq expression (tok ";")),
        keywordStatement "throw" [expression, tok ";"], ref .block]])
  let group := node .switchGroup
    (seq (many1 (seq (ref .switchLabel) (tok ":"))) (many (ref (.statement true))))
  node .switchBlock
    (alt (seqs [tok "\x7b", many1 rule, tok "\x7d"]) (seqs [tok "\x7b", many group, tok "\x7d"]))

def switchLabel : JavaPattern :=
  let guard := opt (node .guard (seq (tok "when") labelExpression))
  let typePattern := seq (ref .unannotatedType) (ident [])
  node .switchLabel
    (alts
      [seqs [tok "case", sepBy1 "," labelExpression, guard, ahead (anyTok [":", "->"])],
        seqs [tok "case", node .pattern (alt typePattern (ref .recordPattern)), guard],
        tok "default"])

def recordPattern : JavaPattern :=
  let component := alt (seq (ref .unannotatedType) (ident []))
    (alt (token (.spelled ["_"]) .underscore) (ref .recordPattern))
  node .pattern
    (seqs [alt (only .genericType (ref .simpleType)) (ident primitiveWords), tok "(",
      commaSep component, tok ")"])

/-! ## Expressions -/

/-- The operators of each level of binding, from the loosest to the tightest. -/
def operators : Nat → JavaPattern
  | 1 => tok "||"
  | 2 => tok "&&"
  | 3 => tok "|"
  | 4 => tok "^"
  | 5 => tok "&"
  | 6 => anyTok ["==", "!="]
  | 7 => anyTok ["<", ">", "<=", ">="]
  | 8 => alts [tok "<<", glued [">", ">", ">"], glued [">", ">"]]
  | 9 => anyTok ["+", "-"]
  | _ => anyTok ["*", "/", "%"]

def assignments : JavaPattern :=
  alts
    [anyTok ["=", "+=", "-=", "*=", "/=", "&=", "|=", "^=", "%=", "<<="],
      glued [">", ">="], glued [">", ">", ">="]]

/-- The level of binding of a postfix increment, above which there are operands only. -/
def postfixLevel : Nat := 11

/-- An expression whose operators bind at least as tightly as a level says. Level 0 is the
conditional operator, which groups to the right. -/
def level (lambdas : Bool) (depth : Nat) : JavaPattern :=
  let tighter := ref (.level lambdas (depth + 1))
  if depth == 0 then
    grow tighter
      (after [] .condition .ternary
        (seqs [tok "?", expression, tok ":", ref (.level lambdas 0)]))
  else if depth < postfixLevel then
    let binary := after [] .left .binary (seq (operators depth) (role .right tighter))
    grow tighter
      (if depth == 7 then
        alt binary
          (after [] .left .instanceOf
            (seqs [tok "instanceof", opt (tok "final"),
              alt (ref .recordPattern)
                (seq (role .right (ref .type)) (opt (role .name (ident ["instanceof", "when"]))))]))
      else binary)
  else
    grow (ref (.operand lambdas)) (after [] .operand .update (anyTok ["++", "--"]))

/-- What operators are applied to: lambdas, signed and cast values, switches, assignments and
primary expressions. -/
def operand (lambdas : Bool) : JavaPattern :=
  let self := ref (.operand lambdas)
  let castValue (p : JavaPattern) := notStarting ["instanceof"] (role .value p)
  let cast := alt
    (node .cast
      (seqs [tok "(", role .type (ref .type), tok ")", castValue (ref (.level lambdas postfixLevel))]))
    (node .cast
      (seqs [tok "(", role .type (ref .type), many1 (seq (tok "&") (role .type (ref .type))), tok ")",
        castValue (alt (ref .lambda) (ref .primary))]))
  alts
    [if lambdas then ref .lambda else excluding empty empty,
      node .unary (seq (anyTok ["+", "-", "!", "~"]) (role .operand self)),
      node .update (seq (anyTok ["++", "--"]) self),
      cast,
      ref .switchExpression,
      grow (ref .primary)
        (after [.identifier, .fieldAccess, .arrayAccess] .left .assignment
          (seq assignments (role .right (ref (.level lambdas 0)))))]

def lambda : JavaPattern :=
  let inferred := node .inferredParameters
    (seqs [tok "(", sepBy1 "," (ident expressionWords), tok ")"])
  node .lambda
    (seqs [role .parameters (alts [ident expressionWords, inferred, ref .formalParameters]), tok "->",
      role .body (alt (ref .block) expression)])

def string : JavaPattern :=
  let part (form : Token.Form) := token (.form form) .token
  alts
    [token (.form .string) .stringLiteral,
      node .stringLiteral
        (seqs [part .stringHead, node .embeddedExpression expression,
          many (seq (part .stringMiddle) (node .embeddedExpression expression)), part .stringTail]),
      seq (part .openString) (alts [])]

def referenced : JavaPattern :=
  seqs [tok "::", opt (ref .typeArguments), alt (tok "new") (ident [])]

def calledOn : JavaPattern :=
  seqs [tok ".", opt (seq (token (.spelled ["super"]) .super) (tok ".")), opt (ref .typeArguments),
    role .name (ident dottedWords), role .arguments (ref .arguments)]

def fieldOf : JavaPattern :=
  seqs [tok ".", opt (seq (token (.spelled ["super"]) .super) (tok ".")),
    role .field (alt (ident dottedWords) (token (.spelled ["this"]) .this))]

def objectCreation : JavaPattern :=
  seqs [tok "new", annotations, opt (seq (ref .typeArguments) annotations),
    role .type (ref .simpleType), role .arguments (ref .arguments), opt (ref .classBody)]

def primary : JavaPattern :=
  let super := token (.spelled ["super"]) .super
  let object := role .object super
  grow
    (alts
      [token (.form .integer) .integerLiteral,
        token (.form .floating) .floatingLiteral,
        token (.form .character) .characterLiteral,
        ref .string,
        token (.spelled ["true", "false"]) .booleanLiteral,
        token (.spelled ["null"]) .nullLiteral,
        token (.spelled ["this"]) .this,
        node .methodInvocation (seq object calledOn),
        node .fieldAccess (seq object fieldOf),
        node .methodReference (seq super referenced),
        ref .creation,
        ref .parenthesized,
        notStarting operandWords
          (node .classLiteral (seqs [ref .unannotatedType, tok ".", tok "class"])),
        notStarting operandWords (node .methodReference (seq (ref .type) referenced)),
        node .methodInvocation
          (seq (role .name (ident expressionWords)) (role .arguments (ref .arguments))),
        ident expressionWords])
    (alts
      [after [] .object .methodInvocation calledOn,
        after [] .object .fieldAccess fieldOf,
        after [] .array .arrayAccess (seqs [tok "[", expression, tok "]"]),
        after [] .none .objectCreation (seq (tok ".") objectCreation),
        after [] .none .methodReference referenced,
        after [] .none .template (seq (tok ".") (ref .string))])

def creation : JavaPattern :=
  alt (node .objectCreation objectCreation)
    (node .arrayCreation
      (seqs [tok "new", annotations, role .type (ref .simpleType),
        alt
          (seq
            (many1 (node .dimensionsExpression
              (seqs [annotations, tok "[", expression, tok "]"])))
            (opt (ref .dimensions)))
          (seq (ref .dimensions) (role .value (node .arrayInitializer
            (braced (ref .variableInitializer)))))]))

end Grammar

open Pattern Grammar in
def grammar : Rule → JavaPattern
  | .unit =>
    node .unit
      (seq (many (alt (ref (.statement false)) (ref .methodDeclaration)))
        (token (.form .finish) .token))
  | .declaration => declaration
  | .typeDeclaration => typeDeclaration
  | .member => member
  | .interfaceMember => interfaceMember
  | .annotationMember => annotationMember
  | .modifiers => Grammar.modifiers
  | .annotationUse => Grammar.annotationUse
  | .elementValue => elementValue
  | .elementPair =>
    node .elementPair
      (seqs [role .key (ident expressionWords), tok "=", role .value (ref .elementValue)])
  | .type =>
    alt (node .annotatedType (seq (many1 (ref .annotationUse)) (ref .unannotatedType)))
      (ref .unannotatedType)
  | .unannotatedType =>
    grow (ref .simpleType) (after [.voidType, .integralType, .floatingType, .booleanType,
      .typeIdentifier, .scopedType, .genericType] .element .arrayType
      (role .dimensions (ref .dimensions)))
  | .simpleType => simpleType
  | .typeArguments => Grammar.typeArguments
  | .typeParameters => typeParameterList
  | .dimensions => node .dimensions (many1 (seqs [annotations, tok "[", tok "]"]))
  | .formalParameters => Grammar.formalParameters
  | .formalParameter => Grammar.formalParameter
  | .variableDeclarator =>
    node .variableDeclarator
      (seq (variableId ["instanceof"])
        (opt (seq (tok "=") (role .value (ref .variableInitializer)))))
  | .variableInitializer =>
    alt expression (node .arrayInitializer (braced (ref .variableInitializer)))
  | .classBody => node .classBody (inBraces (ref .member))
  | .enumConstant =>
    node .enumConstant
      (seqs [opt (ref .modifiers), role .name (ident []),
        opt (role .arguments (ref .arguments)), opt (role .body (ref .classBody))])
  | .methodDeclaration => Grammar.methodDeclaration
  | .qualifiedName =>
    grow (ident [])
      (after [] .scope .scopedIdentifier (seq (tok ".") (role .name (ident []))))
  | .moduleDirective => Grammar.moduleDirective
  | .statement inSwitch => Grammar.statement inSwitch
  | .block => node .block (inBraces (ref (.statement false)))
  | .localVariable => node .localVariableDeclaration (typedDeclarators notLocalTypes)
  | .resource => Grammar.resource
  | .catchClause => Grammar.catchClause
  | .finallyClause => node .finallyClause (seq (tok "finally") (ref .block))
  | .switchBlock => Grammar.switchBlock
  | .switchLabel => Grammar.switchLabel
  | .recordPattern => Grammar.recordPattern
  | .constructorInvocation =>
    node .constructorInvocation
      (alt
        (seqs [opt (ref .typeArguments),
          alt (token (.spelled ["this"]) .this) (token (.spelled ["super"]) .super),
          role .arguments (ref .arguments), tok ";"])
        (seqs [role .object (ref .primary), tok ".", opt (ref .typeArguments),
          token (.spelled ["super"]) .super, role .arguments (ref .arguments), tok ";"]))
  | .level lambdas depth => Grammar.level lambdas depth
  | .operand lambdas => Grammar.operand lambdas
  | .lambda => Grammar.lambda
  | .primary => Grammar.primary
  | .creation => Grammar.creation
  | .parenthesized => node .parenthesized (seqs [tok "(", expression, tok ")"])
  | .arguments => node .argumentList (seqs [tok "(", commaSep expression, tok ")"])
  | .switchExpression =>
    node .switchExpression
      (seqs [tok "switch", condition, role .body (ref .switchBlock)])
  | .string => Grammar.string

end JavaCallGraph.Java
