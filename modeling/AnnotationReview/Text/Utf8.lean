/-!
# UTF-8

Texts as bytes and back.  Reading divides the bytes into well-formed sequences and faults, where
a fault is the longest beginning of a sequence that cannot be completed; `decode?` insists on
there being none, and `decodeLossy` puts a replacement character for each.
-/

namespace AnnotationReview

/-- A string of bytes. -/
abbrev Bytes := List UInt8

namespace Text

/-- The bytes of a text. -/
def encode (text : String) : Bytes :=
  text.toList.flatMap String.utf8EncodeChar

/-- A byte that continues a sequence. -/
def isContinuation (b : UInt8) : Bool :=
  0x80 ≤ b && b ≤ 0xBF

/-- The second byte that may follow the first byte of a longer sequence; this excludes overlong
forms, surrogates and code points beyond the last one. -/
def isSecond (first second : UInt8) : Bool :=
  if first = 0xE0 then 0xA0 ≤ second && second ≤ 0xBF
  else if first = 0xED then 0x80 ≤ second && second ≤ 0x9F
  else if first = 0xF0 then 0x90 ≤ second && second ≤ 0xBF
  else if first = 0xF4 then 0x80 ≤ second && second ≤ 0x8F
  else isContinuation second

/-- The code point with the given leading bits and continuation bytes. -/
def ofParts (lead : Nat) (rest : Bytes) : Char :=
  Char.ofNat (rest.foldl (fun n b => n * 64 + b.toNat % 64) lead)

/-- The well-formed sequences of a string of bytes, in order, with `none` for each fault. -/
def decodeParts : Bytes → List (Option Char)
  | [] => []
  | a :: rest =>
    if a < 0x80 then
      some (Char.ofNat a.toNat) :: decodeParts rest
    else if a < 0xC2 || 0xF4 < a then
      none :: decodeParts rest
    else
      match rest with
      | [] => [none]
      | b :: rest₁ =>
        if !isSecond a b then none :: decodeParts (b :: rest₁)
        else if a < 0xE0 then some (ofParts (a.toNat % 32) [b]) :: decodeParts rest₁
        else
          match rest₁ with
          | [] => [none]
          | c :: rest₂ =>
            if !isContinuation c then none :: decodeParts (c :: rest₂)
            else if a < 0xF0 then some (ofParts (a.toNat % 16) [b, c]) :: decodeParts rest₂
            else
              match rest₂ with
              | [] => [none]
              | d :: rest₃ =>
                if !isContinuation d then none :: decodeParts (d :: rest₃)
                else some (ofParts (a.toNat % 8) [b, c, d]) :: decodeParts rest₃

/-- The text of well-formed bytes. -/
def decode? (bytes : Bytes) : Option String :=
  ((decodeParts bytes).mapM id).map String.ofList

/-- The text of any bytes, with a replacement character for each fault. -/
def decodeLossy (bytes : Bytes) : String :=
  String.ofList ((decodeParts bytes).map fun part => part.getD '\uFFFD')

end Text

end AnnotationReview
