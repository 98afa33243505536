import Roster.Text.Pieces
import Roster.Text.Utf8
import Roster.Token.Error

/-! # Token streams

A stream is the hex digits of its tokens, joined by a bar. The digits never contain the
bar, so the cut is unambiguous; a fault is reported at the first token that has one. -/

namespace Roster.TokenStream

def bar : Char := '|'

def isBar (c : Char) : Bool := c == bar

def encode (tokens : List (List UInt8)) : String :=
  String.ofList (List.intercalate [bar] (tokens.map Hex.encode))

/-- First byte of a character's encoding. -/
def leadByte (c : Char) : UInt8 := (Utf8.encode (String.singleton c)).headD 0

/-- Why `digits`, which starts at a given offset of the stream, is no token. -/
def faultOf (offset : Nat) (digits : List Char) : TokenFault :=
  match digits.dropWhile Hex.isDigit with
  | c :: _ => .notHex (leadByte c) (offset + (digits.takeWhile Hex.isDigit).length)
  | [] => if digits.isEmpty then .empty else .oddLength digits.length

def decodeToken (offset : Nat) (digits : List Char) : Except TokenFault (List UInt8) :=
  match Hex.decode? digits with
  | some (b :: bytes) => .ok (b :: bytes)
  | _ => .error (faultOf offset digits)

/-- Reads the remaining pieces behind the tokens already read, which are held last first. -/
def decodeOnto (done : List (List UInt8)) (offset : Nat) :
    List (List Char) → Except StreamError (List (List UInt8))
  | [] => .ok done.reverse
  | piece :: rest =>
    match decodeToken offset piece with
    | .ok token => decodeOnto (token :: done) (offset + piece.length + 1) rest
    | .error fault => .error (.malformedToken done.length fault)

def decode (stream : String) : Except StreamError (List (List UInt8)) :=
  if stream.isEmpty then .error (.corrupt .emptyStream)
  else decodeOnto [] 0 (pieces isBar stream.toList)

end Roster.TokenStream
