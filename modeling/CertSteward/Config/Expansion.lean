import CertSteward.Environment
import CertSteward.Text.Alphanumeric

/-!
# References to variables

A text is taken apart into plain characters and references, and every
reference is replaced by itself: by the value of its variable, else by its
default, else by its own text. What is put in is not looked at again. Two
dollar signs are one plain dollar sign.
-/

namespace CertSteward.Config

set_option autoImplicit false

inductive Piece where
  | plain (text : List Char)
  /-- A name between braces, with or without a default. -/
  | braced (name : List Char) (fallback : Option (List Char))
  /-- A name that ends at the first character which no name can hold. -/
  | bare (name : List Char)
deriving DecidableEq, Repr

namespace Expansion

def isNameChar (c : Char) : Bool :=
  Text.isAlphanumeric c || c == '_'

/-- The text before the first closing brace and the text after it. -/
def splitBrace : List Char → Option (List Char × List Char)
  | [] => none
  | '\x7d' :: rest => some ([], rest)
  | c :: rest => (splitBrace rest).map fun (inner, after) => (c :: inner, after)

/-- A name and the default behind the first `:-`. -/
def splitDefault : List Char → List Char × Option (List Char)
  | [] => ([], none)
  | ':' :: '-' :: fallback => ([], some fallback)
  | c :: rest =>
      let (name, fallback) := splitDefault rest
      (c :: name, fallback)

/-- What stands between the braces. Without a name in front, `:-` is part of the name. -/
def bracedPiece (inner : List Char) : Piece :=
  match splitDefault inner with
  | ([], _) => .braced inner none
  | (name, fallback) => .braced name fallback

/-- The pieces of a text, at most as many as given. -/
def piecesWithin : Nat → List Char → List Piece
  | 0, _ => []
  | _ + 1, [] => []
  | fuel + 1, '$' :: '\x7b' :: rest =>
      match splitBrace rest with
      | some (inner, after) => bracedPiece inner :: piecesWithin fuel after
      | none => .plain ['$', '\x7b'] :: piecesWithin fuel rest
  | fuel + 1, '$' :: '$' :: rest => .plain ['$'] :: piecesWithin fuel rest
  | fuel + 1, '$' :: rest =>
      match rest.takeWhile isNameChar with
      | [] => .plain ['$'] :: piecesWithin fuel rest
      | name => .bare name :: piecesWithin fuel (rest.dropWhile isNameChar)
  | fuel + 1, c :: rest => .plain [c] :: piecesWithin fuel rest

def pieces (text : List Char) : List Piece :=
  piecesWithin (text.length + 1) text

/-- What a reference looks like in the text. -/
def source : Piece → List Char
  | .plain text => text
  | .braced name none => '$' :: '\x7b' :: (name ++ ['\x7d'])
  | .braced name (some fallback) =>
      '$' :: '\x7b' :: (name ++ ':' :: '-' :: (fallback ++ ['\x7d']))
  | .bare name => '$' :: name

def value? (environment : Environment) (name : List Char) : Option (List Char) :=
  (environment.get? (String.ofList name)).map String.toList

/-- What a piece becomes. A variable that is set to the empty text is set, so its piece becomes
empty, whether or not there is a default. -/
def render (environment : Environment) : Piece → List Char
  | .plain text => text
  | .braced name (some fallback) => (value? environment name).getD fallback
  | .braced name none => (value? environment name).getD (source (.braced name none))
  | .bare name => (value? environment name).getD (source (.bare name))

end Expansion

/-- The text with its references replaced. -/
def expand (environment : Environment) (text : List Char) : List Char :=
  (Expansion.pieces text).flatMap (Expansion.render environment)

end CertSteward.Config
