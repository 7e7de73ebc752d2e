import TokenServer.Table
import TokenServer.Text.Escape

/-!
Bodies of type `application/x-www-form-urlencoded`. Reading never fails: a broken escape stands for
itself and broken UTF-8 for the replacement character.
-/

namespace TokenServer.Form

def ampersand : UInt8 := 0x26

def equals : UInt8 := 0x3D

def isPlain (byte : UInt8) : Bool :=
  Escape.isDigit byte || Escape.isLetter byte ||
    byte == 0x2A || byte == 0x2D || byte == 0x2E || byte == 0x5F

def encodeText (text : String) : Bytes :=
  (Utf8.encode text).flatMap fun byte =>
    if isPlain byte then [byte] else if byte = Escape.space then [Escape.plus] else Escape.escaped byte

def encode (pairs : List (String × String)) : Bytes :=
  [ampersand].intercalate
    (pairs.map (fun pair => encodeText pair.1 ++ equals :: encodeText pair.2))

def decodeText (bytes : Bytes) : String :=
  Utf8.decodeLossy (Escape.expand (Escape.plusToSpace bytes))

def decodePair (bytes : Bytes) : String × String :=
  (decodeText (bytes.takeWhile (· ≠ equals)), decodeText ((bytes.dropWhile (· ≠ equals)).drop 1))

def decode (body : Bytes) : List (String × String) :=
  ((body.splitOn ampersand).filter (!·.isEmpty)).map decodePair

end TokenServer.Form
