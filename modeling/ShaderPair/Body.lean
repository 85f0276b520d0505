import ShaderPair.Token

/-! The body of one translated stage, held as its tokens. Declarations are looked for at line
starts only, and every edit works on token positions. -/

namespace ShaderPair

structure Body where
  tokens : List Token
  deriving DecidableEq, Repr

/-- A declaration `QUALIFIER TYPE NAME` at the start of a line. -/
structure Declaration where
  type : Text
  name : Text
  deriving DecidableEq, Repr

namespace Body

def ofText (text : Text) : Body := ⟨tokenize text⟩

def text (body : Body) : Text := render body.tokens

def lineStarts (body : Body) : List Nat :=
  let followers := body.tokens.zipIdx.filterMap fun (token, position) =>
    if token.kind == .newline && position + 1 < body.tokens.length then some (position + 1) else none
  if body.tokens.isEmpty then followers else 0 :: followers

def declarationAt? (body : Body) (qualifier : Text) (start : Nat) : Option Declaration :=
  match body.tokens.drop start with
  | first :: gap :: type :: space :: name :: _ =>
    if first.isIdent qualifier && gap.kind == .space && type.kind == .ident &&
        space.kind == .space && name.kind == .ident then
      some ⟨type.text, name.text⟩
    else none
  | _ => none

def declarations (body : Body) (qualifier : Text) : List Declaration :=
  body.lineStarts.filterMap (body.declarationAt? qualifier)

def mentions (body : Body) (name : Text) : Bool := body.tokens.any (·.isIdent name)

def positionsOf (body : Body) (name : Text) : List Nat :=
  body.tokens.zipIdx.filterMap fun (token, position) =>
    if token.isIdent name then some position else none

def findPunct? (body : Body) (start : Nat) (c : Char) : Option Nat :=
  ((body.tokens.drop start).findIdx? (·.isPunct c)).map (start + ·)

def rename (body : Body) (names : Table Text) : Body := ⟨body.tokens.map (Token.rename names)⟩

def renameCount (body : Body) (names : Table Text) : Nat := body.tokens.countP (Token.isNamed names)

def replaceWithIdent (body : Body) (position : Nat) (name : Text) : Body :=
  ⟨body.tokens.set position ⟨.ident, name⟩⟩

/-- The tokens of `text` go right after the given position, or at the end. -/
def insertAfter (body : Body) (position : Nat) (text : Text) : Body :=
  ⟨body.tokens.take (position + 1) ++ tokenize text ++ body.tokens.drop (position + 1)⟩

/-- A line `uniform vecN NAME[N];`, which stands for a square matrix. -/
structure MatrixSite where
  start : Nat
  width : Nat
  name : Text
  deriving DecidableEq, Repr

/-- The width of a vector type that a matrix can have as its side. -/
def vectorWidth? (type : Text) : Option Nat :=
  ((Text.after? "vec" type).bind Text.readWord?).filter fun width => 2 ≤ width && width ≤ 4

def isSubscriptAt (body : Body) (start width : Nat) : Bool :=
  match body.tokens.drop start with
  | opening :: length :: closing :: semicolon :: _ =>
    opening.isPunct '[' && length.kind == .number && Text.readWord? length.text == some width &&
      closing.isPunct ']' && semicolon.isPunct ';'
  | _ => false

def matrixSiteAt? (body : Body) (start : Nat) : Option MatrixSite := do
  let declaration ← body.declarationAt? "uniform" start
  let width ← vectorWidth? declaration.type
  if body.isSubscriptAt (start + 5) width then some ⟨start, width, declaration.name⟩ else none

def matrixSites (body : Body) : List MatrixSite := body.lineStarts.filterMap body.matrixSiteAt?

/-- The type token becomes `matN` and the tokens `[N]` go. -/
def collapseAt (site : MatrixSite) (tokens : List Token) : List Token :=
  let typed := tokens.set (site.start + 2) ⟨.ident, "mat" ++ Text.decimal site.width⟩
  typed.take (site.start + 5) ++ typed.drop (site.start + 8)

/-- All matrix sites collapse, the last one first so that earlier positions stay valid. -/
def collapse (body : Body) : Body := ⟨body.matrixSites.foldr collapseAt body.tokens⟩

def collapsedNames (body : Body) : List Text := body.matrixSites.map MatrixSite.name

end Body

end ShaderPair
