/-
# URLs

A URL is checked before it is dialed, and its host is looked up.  Blanks and controls around
it and line breaks and tabs inside it do not count.  A scheme that is always followed by a
host reads any number of slashes in front of it, and reads backslashes as slashes.  What
follows the authority can hold anything.
-/
import GroupCall.Net.Domain
import GroupCall.Net.Ip

namespace GroupCall

open Text

/-- Why a text is no URL. -/
inductive UrlError where
  /-- There is no host where there must be one. -/
  | emptyHost
  /-- The host is not a domain name. -/
  | domainName
  /-- The port is no number below `2 ^ 16`. -/
  | port
  /-- The host ends in a number without being an address of version 4. -/
  | ipv4
  /-- The host opens a bracket without being an address of version 6. -/
  | ipv6
  /-- The host holds a character that it cannot hold. -/
  | hostCharacter
  /-- There is no scheme. -/
  | relative
deriving DecidableEq, Repr

/-- An error in words. -/
def UrlError.message : UrlError → String
  | .emptyHost => "empty host"
  | .domainName => "invalid international domain name"
  | .port => "invalid port number"
  | .ipv4 => "invalid IPv4 address"
  | .ipv6 => "invalid IPv6 address"
  | .hostCharacter => "invalid domain character"
  | .relative => "relative URL without a base"

/-- What is known of a URL. -/
structure Url where
  /-- The scheme, in lower case. -/
  scheme : String
  /-- The host in its normal form, if there is one. -/
  host : Option String
deriving DecidableEq, Repr

namespace Url

/-! ## Hosts -/

/-- Bytes in which every percent sign with two hexadecimal digits behind it is replaced by
the byte of these digits. -/
def percentDecode : List UInt8 → List UInt8
  | [] => []
  | a :: b :: c :: rest =>
    if a = 0x25 then
      match hexValue? (Char.ofNat b.toNat), hexValue? (Char.ofNat c.toNat) with
      | some high, some low => UInt8.ofNat (16 * high + low) :: percentDecode rest
      | _, _ => a :: percentDecode (b :: c :: rest)
    else a :: percentDecode (b :: c :: rest)
  | a :: rest => a :: percentDecode rest

/-- Reads digits of a base behind a number that has the value `n` so far. -/
def readBase (base n : Nat) : List Char → Option Nat
  | [] => some n
  | c :: rest =>
    (hexValue? c).bind fun d => if d < base then readBase base (base * n + d) rest else none

/-- The number that a part of an address writes, in the base that its first characters
name: hexadecimal behind `0x`, octal behind `0`, else decimal. -/
def addressPart? : List Char → Option Nat
  | [] => none
  | '0' :: 'x' :: rest => readBase 16 0 rest
  | '0' :: 'X' :: rest => readBase 16 0 rest
  | '0' :: c :: rest => readBase 8 0 (c :: rest)
  | text => readBase 10 0 text

/-- The pieces of a name between its dots, without an empty one behind a dot at the end. -/
def nameParts (name : List Char) : List (List Char) :=
  let parts := pieces '.' name
  if 1 < parts.length && parts.getLast? == some [] then parts.dropLast else parts

/-- Whether the last piece of a name is a number. -/
def endsInNumber (name : List Char) : Bool :=
  match (nameParts name).getLast? with
  | some last => (!last.isEmpty && last.all Char.isDigit) || (addressPart? last).isSome
  | none => false

/-- The address of version 4 that a name stands for: up to four numbers, the last of which
fills the bytes that are left. -/
def address4? (name : List Char) : Option Ipv4 := do
  let numbers ← (nameParts name).mapM addressPart?
  let last ← numbers.getLast?
  let front := numbers.dropLast
  let width := 8 * (4 - front.length)
  if front.length ≤ 3 ∧ front.all (· < 256) ∧ last < 1 <<< width then
    return ⟨UInt32.ofNat ((front.foldl (fun n b => 256 * n + b) 0) <<< width + last)⟩
  else none

/-- The address of version 6 between brackets. -/
def bracketed (text : List Char) : Except UrlError String :=
  match text.getLast? with
  | some ']' =>
    match Ipv6.read? text.dropLast with
    | some address => .ok (String.ofList ('[' :: address.chars ++ [']']))
    | none => .error .ipv6
  | _ => .error .ipv6

/-- The host of a scheme that is followed by a domain name or an address. -/
def domainHost (text : List Char) : Except UrlError String :=
  match text with
  | '[' :: rest => bracketed rest
  | _ =>
    match Domain.toAscii? (percentDecode (utf8 (String.ofList text))) with
    | none => .error .domainName
    | some [] => .error .emptyHost
    | some name =>
      if endsInNumber name then
        match address4? name with
        | some address => .ok (String.ofList address.chars)
        | none => .error .ipv4
      else .ok (String.ofList name)

/-- Whether no host of any scheme holds a character. -/
def isHostBreak (c : Char) : Bool := c = '\x00' || c = ' ' || "#/:<>?@[\\]^|".toList.contains c

/-- The host of any other scheme. -/
def opaqueHost (text : List Char) : Except UrlError String :=
  match text with
  | '[' :: rest => bracketed rest
  | _ => if text.any isHostBreak then .error .hostCharacter else .ok (String.ofList text)

/-! ## Authorities -/

/-- The schemes that are always followed by a host. -/
def hostSchemes : List String := ["ftp", "http", "https", "ws", "wss"]

/-- Whether a character ends the authority; `strict` says whether a backslash does. -/
def endsAuthority (strict : Bool) (c : Char) : Bool :=
  c = '/' || c = '?' || c = '#' || (strict && c = '\\')

/-- Cuts a host from what follows it: the first colon outside of brackets. -/
def splitHost (inside : Bool) : List Char → List Char × List Char
  | [] => ([], [])
  | c :: rest =>
    if c = ':' && !inside then ([], c :: rest)
    else
      let (host, more) := splitHost (if c = '[' then true else if c = ']' then false else inside) rest
      (c :: host, more)

/-- Checks the port behind a host. -/
def checkPort (strict : Bool) (text : List Char) : Except UrlError Unit :=
  match text with
  | ':' :: rest =>
    match readBase 10 0 (if strict then rest else rest.takeWhile (· ≠ '\\')) with
    | some n => if n < UInt16.size then .ok () else .error .port
    | none => .error .port
  | _ => .ok ()

/-- Cuts the user in front of the last at sign from the host behind it. -/
def splitUser (text : List Char) : Option (List Char) × List Char :=
  match splitAtFirst '@' text.reverse with
  | some (host, user) => (some user.reverse, host.reverse)
  | none => (none, text)

/-- Whether a user has a name or a password. -/
def namesUser (user : List Char) : Bool := !(user.isEmpty || user == [':'])

/-- Reads an authority and what follows it; `strict` says whether there must be a host. -/
def authority (strict : Bool) (text : List Char) : Except UrlError (Option String) := do
  let (user, rest) := splitUser (text.takeWhile fun c => !endsAuthority strict c)
  let (host, behind) := splitHost false rest
  if host.isEmpty then
    let bare := rest.isEmpty && user == some [] && (text.any (endsAuthority strict))
    if strict || !behind.isEmpty || bare || (user.any namesUser) then .error .emptyHost
    else .ok none
  else
    let name ← if strict then domainHost host else opaqueHost host
    checkPort strict behind
    return some name

/-- Reads what follows the scheme of files: only between two slashes and a third does a host
stand, and the letter of a drive is none. -/
def fileHost (text : List Char) : Except UrlError (Option String) :=
  match text with
  | a :: b :: rest =>
    if (a = '/' || a = '\\') && (b = '/' || b = '\\') then
      match rest.takeWhile fun c => !endsAuthority true c with
      | [] => .ok none
      | [drive, mark] =>
        if drive.isAlpha && (mark = ':' || mark = '|') then .ok none
        else (domainHost [drive, mark]).map some
      | host =>
        (domainHost host).map fun name => if name = "localhost" then none else some name
    else .ok none
  | _ => .ok none

/-! ## Whole URLs -/

/-- The characters of a text that count. -/
def significant (text : List Char) : List Char :=
  let isEdge := fun (c : Char) => c.toNat ≤ 0x20
  (((text.dropWhile isEdge).reverse.dropWhile isEdge).reverse).filter fun c =>
    !(c = '\t' || c = '\n' || c = '\r')

/-- Whether a character can stand in a scheme. -/
def isSchemeChar (c : Char) : Bool := c.isAlphanum || c = '+' || c = '-' || c = '.'

/-- The scheme in front of the first colon, in lower case, and the rest. -/
def scheme? (text : List Char) : Option (String × List Char) :=
  match splitAtFirst ':' text with
  | some (first :: more, rest) =>
    if first.isAlpha && more.all isSchemeChar then
      some (String.ofList ((first :: more).map Char.toLower), rest)
    else none
  | _ => none

/-- Reads a URL. -/
def parse (text : String) : Except UrlError Url :=
  match scheme? (significant text.toList) with
  | none => .error .relative
  | some (scheme, rest) =>
    if scheme = "file" then (fileHost rest).map fun host => ⟨scheme, host⟩
    else if hostSchemes.contains scheme then
      (authority true (rest.dropWhile fun c => c = '/' || c = '\\')).map fun host => ⟨scheme, host⟩
    else
      match dropBeginning ['/', '/'] rest with
      | some rest => (authority false rest).map fun host => ⟨scheme, host⟩
      | none => .ok ⟨scheme, none⟩

end Url
end GroupCall
