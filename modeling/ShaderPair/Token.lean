import ShaderPair.Table

/-! Tokens of shader text. Every character belongs to exactly one token, so rendering the
tokens of a text gives the text back and names can be changed as whole words. -/

namespace ShaderPair

inductive TokenKind where
  | ident
  | number
  | space
  | newline
  | punct
  deriving DecidableEq, Repr

structure Token where
  kind : TokenKind
  text : Text
  deriving DecidableEq, Repr

def isIdentStart (c : Char) : Bool := c.isAlpha || c == '_'

def isIdentRest (c : Char) : Bool := c.isAlphanum || c == '_'

def isSpacing (c : Char) : Bool := Text.isBlank c && c != '\n'

namespace TokenKind

def ofFirst (c : Char) : TokenKind :=
  if c == '\n' then newline
  else if isIdentStart c then ident
  else if c.isDigit then number
  else if Text.isBlank c then space
  else punct

/-- The characters that lengthen a token of the kind. -/
def continues : TokenKind → Char → Bool
  | ident, c => isIdentRest c
  | number, c => isIdentRest c || c == '.'
  | space, c => isSpacing c
  | newline, _ => false
  | punct, _ => false

end TokenKind

namespace Token

def isIdent (token : Token) (name : Text) : Bool := token.kind == .ident && token.text == name

def isPunct (token : Token) (c : Char) : Bool := token.kind == .punct && token.text == [c]

def rename (names : Table Text) (token : Token) : Token :=
  match token.kind, names.get? token.text with
  | .ident, some name => ⟨.ident, name⟩
  | _, _ => token

def isNamed (names : Table Text) (token : Token) : Bool :=
  token.kind == .ident && names.contains token.text

end Token

/-- Each token takes as many characters as its kind allows. -/
def tokenize : Text → List Token
  | [] => []
  | first :: rest =>
    let kind := TokenKind.ofFirst first
    ⟨kind, first :: rest.takeWhile kind.continues⟩ :: tokenize (rest.dropWhile kind.continues)
termination_by text => text.length
decreasing_by
  simp only [List.length_cons]
  exact Nat.lt_succ_of_le (List.dropWhile_sublist _).length_le

def render (tokens : List Token) : Text := tokens.flatMap Token.text

theorem render_cons (token : Token) (rest : List Token) :
    render (token :: rest) = token.text ++ render rest := by
  simp [render]

theorem render_append (left right : List Token) : render (left ++ right) = render left ++ render right := by
  simp [render]

theorem render_tokenize (text : Text) : render (tokenize text) = text := by
  fun_induction tokenize text with
  | case1 => rfl
  | case2 first rest kind ih =>
    rw [render_cons, ih, List.cons_append, List.takeWhile_append_dropWhile]

end ShaderPair
