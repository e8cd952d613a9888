import AnnotationReview.Text.Split

/-!
# Numeric hosts

IPv4 and IPv6 addresses as they may be written in a URL, and their usual form.  An IPv4 address
has one to four parts in decimal, octal or hexadecimal, of which the last fills all the bytes
that are left.  An IPv6 address has eight groups, of which one run of zeros may be left out.
-/

namespace AnnotationReview.Url

/-- The value of a digit in any base up to sixteen. -/
def anyDigit? (base : Nat) (c : Char) : Option Nat :=
  let n := c.toNat
  let value :=
    if 48 ≤ n ∧ n ≤ 57 then n - 48
    else if 65 ≤ n ∧ n ≤ 70 then n - 55
    else if 97 ≤ n ∧ n ≤ 102 then n - 87
    else base
  if value < base then some value else none

/-- The number that digits denote. -/
def numberIn? (base : Nat) (cs : List Char) : Option Nat :=
  cs.foldlM (fun n c => (anyDigit? base c).map (n * base + ·)) 0

/-! ## IPv4 -/

/-- A part of an IPv4 address: a leading `0x` makes it hexadecimal and any other leading zero
octal. -/
def partNumber? : List Char → Option Nat
  | [] => none
  | '0' :: 'x' :: digits => numberIn? 16 digits
  | '0' :: 'X' :: digits => numberIn? 16 digits
  | '0' :: c :: digits => numberIn? 8 (c :: digits)
  | digits => numberIn? 10 digits

/-- The parts between dots, without an empty part at the end. -/
def dottedParts (host : List Char) : List (List Char) :=
  let parts := Text.splitOn '.' host
  if 1 < parts.length ∧ parts.getLast? = some [] then parts.dropLast else parts

/-- A host whose last part is a number is meant as an IPv4 address. -/
def endsInNumber (host : List Char) : Bool :=
  match (dottedParts host).getLast? with
  | none | some [] => false
  | some part => part.all Char.isDigit || (partNumber? part).isSome

/-- The address a host denotes, as one number. -/
def ipv4? (host : List Char) : Option Nat := do
  let parts := dottedParts host
  if 4 < parts.length then none
  else
    let numbers ← parts.mapM partNumber?
    let last ← numbers.getLast?
    let front := numbers.dropLast
    let size := Nat.pow 256 (4 - front.length)
    if size ≤ last ∨ front.any (255 < ·) then none
    else some (front.foldl (fun n part => n * 256 + part) 0 * size + last)

/-- An IPv4 address in four decimal parts. -/
def writeIpv4 (address : Nat) : List Char :=
  let part (k : Nat) : List Char := Nat.toDigits 10 (address / Nat.pow 256 k % 256)
  part 3 ++ '.' :: part 2 ++ '.' :: part 1 ++ '.' :: part 0

/-! ## IPv6 -/

/-- A group of one to four hexadecimal digits. -/
def group? (cs : List Char) : Option Nat :=
  if cs.isEmpty ∨ 4 < cs.length then none else numberIn? 16 cs

/-- A decimal part without leading zeros, below 256. -/
def strictPart? (cs : List Char) : Option Nat := do
  let n ← if cs.isEmpty then none else numberIn? 10 cs
  if 255 < n ∨ (cs.head? = some '0' ∧ cs.length ≠ 1) then none else some n

/-- The two groups that four decimal parts stand for. -/
def embeddedIpv4? (cs : List Char) : Option (List Nat) := do
  match ← (Text.splitOn '.' cs).mapM strictPart? with
  | [a, b, c, d] => some [a * 256 + b, c * 256 + d]
  | _ => none

/-- Groups between colons; the last may be an IPv4 address if `endsHere`. -/
def groups? (endsHere : Bool) (cs : List Char) : Option (List Nat) :=
  if cs.isEmpty then some []
  else do
    let parts := Text.splitOn ':' cs
    let last ← parts.getLast?
    let front ← parts.dropLast.mapM group?
    if endsHere ∧ '.' ∈ last then return front ++ (← embeddedIpv4? last)
    else return front ++ [← group? last]

/-- Divides a text at the first double colon. -/
def splitGap : List Char → Option (List Char × List Char)
  | ':' :: ':' :: cs => some ([], cs)
  | c :: cs => (splitGap cs).map fun (front, back) => (c :: front, back)
  | [] => none

/-- The eight groups of an IPv6 address. -/
def ipv6? (cs : List Char) : Option (List Nat) :=
  match splitGap cs with
  | none => do
    let groups ← groups? true cs
    if groups.length = 8 then some groups else none
  | some (front, back) => do
    let front ← groups? false front
    let back ← groups? true back
    if front.length + back.length < 8 then
      some (front ++ List.replicate (8 - front.length - back.length) 0 ++ back)
    else none

/-- The length of the run of zeros at the beginning. -/
def zeroRun (groups : List Nat) : Nat :=
  (groups.takeWhile (· = 0)).length

/-- Where the longest run of at least two zeros begins, and its length; of equal runs the
first. -/
def longestGap (groups : List Nat) : Option (Nat × Nat) :=
  let runs := (List.range groups.length).map fun i => (i, zeroRun (groups.drop i))
  runs.foldl (fun best (i, n) =>
    if n < 2 then best
    else match best with
      | some (_, m) => if m < n then some (i, n) else best
      | none => some (i, n)) none

/-- Groups with colons between them. -/
def writeGroups : List Nat → List Char
  | [] => []
  | [g] => Nat.toDigits 16 g
  | g :: h :: gs => Nat.toDigits 16 g ++ ':' :: writeGroups (h :: gs)

/-- An IPv6 address in brackets, with its longest run of zeros left out. -/
def writeIpv6 (groups : List Nat) : List Char :=
  let body := match longestGap groups with
    | none => writeGroups groups
    | some (i, n) => writeGroups (groups.take i) ++ ':' :: ':' :: writeGroups (groups.drop (i + n))
  '[' :: body ++ [']']

end AnnotationReview.Url
