-- Hosts of URLs. A host is a domain, an IPv4 or IPv6 address, or, in a URL
-- whose scheme is not a special one, opaque text. A domain is
-- percent-decoded and brought to its ASCII form (see `Domain.toAscii`). A
-- domain whose last label is a number is read as IPv4.
import Typeahead.Domain.Ascii
import Typeahead.Text.Percent
import Typeahead.Text.Utf8

namespace Typeahead.Url

/-- Why a text is not a URL. -/
inductive ParseError where
  | emptyHost
  | idna
  | invalidPort
  | invalidIpv4
  | invalidIpv6
  | invalidDomainCharacter
  | relativeWithoutBase
  deriving Repr, DecidableEq

/-- The message of a parse error. -/
def ParseError.message : ParseError → String
  | .emptyHost => "empty host"
  | .idna => "invalid international domain name"
  | .invalidPort => "invalid port number"
  | .invalidIpv4 => "invalid IPv4 address"
  | .invalidIpv6 => "invalid IPv6 address"
  | .invalidDomainCharacter => "invalid domain character"
  | .relativeWithoutBase => "relative URL without a base"

/-- A host. -/
inductive Host where
  | domain (name : String)
  | ipv4 (address : Nat)
  | ipv6 (pieces : List Nat)
  | plain (text : String)
  deriving Repr, DecidableEq

/-! ## Percent-decoding -/

/-- The value of a hex digit. -/
def hexVal? (c : Char) : Option Nat :=
  if '0' ≤ c && c ≤ '9' then some (c.toNat - 48)
  else if 'a' ≤ c && c ≤ 'f' then some (c.toNat - 87)
  else if 'A' ≤ c && c ≤ 'F' then some (c.toNat - 55)
  else none

/-- The bytes of percent-encoded bytes: `%` and two hex digits stand for one
byte, anything else for itself. -/
def percentDecode : List UInt8 → List UInt8
  | 37 :: a :: b :: rest =>
    match hexVal? (Char.ofNat a.toNat), hexVal? (Char.ofNat b.toNat) with
    | some x, some y => (x * 16 + y).toUInt8 :: percentDecode rest
    | _, _ => 37 :: percentDecode (a :: b :: rest)
  | b :: rest => b :: percentDecode rest
  | [] => []

/-! ## IPv4 -/

/-- Reads one part of an IPv4 address: decimal, octal after `0`, hex after
`0x`. `some none` is a number too large for 32 bits. -/
def ipv4Number (s : List Char) : Option (Option Nat) :=
  if s.isEmpty then none
  else
    let (digits, radix) :=
      match s with
      | '0' :: 'x' :: r | '0' :: 'X' :: r => (r, 16)
      | '0' :: r@(_ :: _) => (r, 8)
      | r => (r, 10)
    if digits.isEmpty then some (some 0)
    else
      let vals := digits.map hexVal?
      if vals.all (fun v => match v with | some d => d < radix | none => false) &&
          (radix != 10 || digits.all Char.isDigit) then
        let n := vals.foldl (fun acc v => acc * radix + v.getD 0) 0
        some (if n < Nat.pow 2 32 then some n else none)
      else none

/-- Whether a domain ends in a number, and so must be an IPv4 address. -/
def endsInNumber (s : List Char) : Bool :=
  let parts := (s.splitOn '.').reverse
  let last := match parts with
    | [] :: next :: _ => some next
    | [] :: [] => none
    | p :: _ => some p
    | [] => none
  match last with
  | none => false
  | some p => (!p.isEmpty && p.all Char.isDigit) || (ipv4Number p).isSome

/-- Reads an IPv4 address of one to four parts. -/
def parseIpv4 (s : List Char) : Except ParseError Nat := do
  let parts := s.splitOn '.'
  let parts := if parts.getLast? = some [] then parts.dropLast else parts
  if parts.length > 4 then throw .invalidIpv4
  let nums ← parts.mapM (fun p => match ipv4Number p with
    | some (some n) => .ok n
    | _ => .error .invalidIpv4)
  match nums.reverse with
  | [] => throw .invalidIpv4
  | last :: firsts =>
    let firsts := firsts.reverse
    if last ≥ Nat.pow 256 (4 - firsts.length) then throw .invalidIpv4
    if firsts.any (· > 255) then throw .invalidIpv4
    pure (firsts.zipIdx.foldl (fun acc (n, i) => acc + n * Nat.pow 256 (3 - i)) last)

/-- The dotted form of an IPv4 address. -/
def ipv4Text (a : Nat) : String :=
  ".".intercalate ([3, 2, 1, 0].map (fun k => toString (a / Nat.pow 256 k % 256)))

/-! ## IPv6 -/

/-- Reads up to four hex digits. -/
def hexPiece (cs : List Char) : Nat × Nat × List Char :=
  let ds := (cs.take 4).takeWhile (fun c => (hexVal? c).isSome)
  (ds.foldl (fun acc c => acc * 16 + (hexVal? c).getD 0) 0, ds.length, cs.drop ds.length)

/-- Reads the dotted IPv4 tail of an IPv6 address into two pieces. -/
def ipv4Tail (cs : List Char) (seen : Nat) (acc : List Nat) (fuel : Nat) :
    Except ParseError (List Nat) :=
  match fuel with
  | 0 => .error .invalidIpv6
  | fuel + 1 =>
    if cs.isEmpty then
      if seen = 4 then .ok acc else .error .invalidIpv6
    else do
      let cs ← if seen > 0 then
          (match cs with
           | '.' :: r => if seen < 4 then .ok r else .error .invalidIpv6
           | _ => .error .invalidIpv6)
        else .ok cs
      let ds := cs.takeWhile Char.isDigit
      if ds.isEmpty then throw .invalidIpv6
      if ds.length > 1 && ds.head? = some '0' then throw .invalidIpv6
      let v : Nat := ds.foldl (fun a c => a * 10 + (c.toNat - 48)) 0
      if v > 255 then throw .invalidIpv6
      ipv4Tail (cs.drop ds.length) (seen + 1) (acc ++ [v]) fuel

/-- Reads the pieces of an IPv6 address, noting where `::` stood. -/
def ipv6Pieces (cs : List Char) (pieces : List Nat) (compress : Option Nat) (fuel : Nat) :
    Except ParseError (List Nat × Option Nat) :=
  match fuel with
  | 0 => .error .invalidIpv6
  | fuel + 1 =>
    match cs with
    | [] => .ok (pieces, compress)
    | _ =>
      if pieces.length = 8 then .error .invalidIpv6
      else
        match cs with
        | ':' :: r =>
          if compress.isSome then .error .invalidIpv6
          else ipv6Pieces r pieces (some pieces.length) fuel
        | _ =>
          let (v, len, r) := hexPiece cs
          match r with
          | '.' :: _ =>
            if len = 0 || pieces.length > 6 then .error .invalidIpv6
            else
              -- the digits read as hex begin the dotted tail: read it from there
              match ipv4Tail cs 0 [] (cs.length + 1) with
              | .ok [a, b, c, d] => .ok (pieces ++ [a * 256 + b, c * 256 + d], compress)
              | _ => .error .invalidIpv6
          | ':' :: r' =>
            if r'.isEmpty then .error .invalidIpv6
            else ipv6Pieces r' (pieces ++ [v]) compress fuel
          | [] => .ok (pieces ++ [v], compress)
          | _ => .error .invalidIpv6

/-- Reads an IPv6 address, the text between the brackets. -/
def parseIpv6 (cs : List Char) : Except ParseError (List Nat) := do
  let (start, compress0) ← match cs with
    | ':' :: ':' :: r => .ok (r, some 0)
    | ':' :: _ => .error .invalidIpv6
    | r => .ok (r, none)
  let (pieces, compress) ←
    match start, compress0 with
    | [], some _ => .ok ([], some 0)
    | _, _ => ipv6Pieces start [] compress0 (cs.length + 2)
  match compress with
  | some k =>
    if pieces.length > 8 then throw .invalidIpv6
    let zeros := List.replicate (8 - pieces.length) 0
    pure (pieces.take k ++ zeros ++ pieces.drop k)
  | none => if pieces.length = 8 then pure pieces else throw .invalidIpv6

/-- The lower-case hex text of a number. -/
def lowerHex (n : Nat) : String := String.ofList (Nat.toDigits 16 n)

/-- The first longest run of at least two zero pieces: its start and length. -/
def longestZeros (pieces : List Nat) : Option (Nat × Nat) :=
  let runs := (List.range 8).filterMap (fun i =>
    if pieces[i]? = some 0 && (i = 0 || pieces[i - 1]? != some 0) then
      some (i, ((pieces.drop i).takeWhile (· = 0)).length)
    else none)
  runs.foldl (fun best r =>
    if r.2 < 2 then best
    else match best with
      | some b => if r.2 > b.2 then some r else best
      | none => some r) none

/-- The text of an IPv6 address, a longest run of zeros written `::`. -/
def ipv6Text (pieces : List Nat) : String :=
  match longestZeros pieces with
  | none => ":".intercalate (pieces.map lowerHex)
  | some (i, len) =>
    ":".intercalate ((pieces.take i).map lowerHex) ++ "::" ++
      ":".intercalate ((pieces.drop (i + len)).map lowerHex)

/-! ## Domains -/

/-- The ASCII form of a domain given as percent-decoded bytes, which must
be UTF-8 text. -/
def domainToAscii (bytes : List UInt8) : Except ParseError String :=
  match (Text.decode? bytes).bind Domain.toAscii with
  | some d => .ok d
  | none => .error .idna

/-- Reads the host of a URL with a special scheme. -/
def Host.parse (cs : List Char) : Except ParseError Host :=
  match cs with
  | '[' :: rest =>
    if rest.getLast? != some ']' then .error .invalidIpv6
    else (parseIpv6 rest.dropLast).map Host.ipv6
  | _ => do
    let bytes := percentDecode (Text.utf8Bytes cs)
    let domain ← domainToAscii bytes
    if domain.isEmpty then throw .emptyHost
    if endsInNumber domain.toList then (parseIpv4 domain.toList).map Host.ipv4
    else pure (.domain domain)

/-- A character that an opaque host may not hold. -/
def isForbiddenInHost (c : Char) : Bool :=
  "\x00\t\n\r #/:<>?@[\\]^|".toList.contains c

/-- A character written percent-encoded in opaque text: controls and all
that is not ASCII. -/
def isControlOrWide (c : Char) : Bool := c.toNat < 32 || c.toNat > 126

/-- Percent-encodes the characters of a text that a set names. -/
def encodeWith (inSet : Char → Bool) (cs : List Char) : String :=
  String.ofList (cs.flatMap (fun c =>
    if inSet c then (Text.utf8Bytes [c]).flatMap
      (fun b => ['%', Text.hexDigit (b.toNat / 16), Text.hexDigit (b.toNat % 16)])
    else [c]))

/-- Reads the host of a URL whose scheme is not special. -/
def Host.parsePlain (cs : List Char) : Except ParseError Host :=
  match cs with
  | '[' :: rest =>
    if rest.getLast? != some ']' then .error .invalidIpv6
    else (parseIpv6 rest.dropLast).map Host.ipv6
  | _ =>
    if cs.any isForbiddenInHost then .error .invalidDomainCharacter
    else .ok (.plain (encodeWith isControlOrWide cs))

/-- The text of a host. -/
def Host.text : Host → String
  | .domain d => d
  | .ipv4 a => ipv4Text a
  | .ipv6 p => "[" ++ ipv6Text p ++ "]"
  | .plain t => t

/-- Whether a host is the empty domain or empty opaque text. -/
def Host.isEmpty : Host → Bool
  | .domain d | .plain d => d.isEmpty
  | _ => false

end Typeahead.Url
