import Anchr.Infra.Text

/-!
# Validation of attachment URLs

`attachments/url-validation.ts`, on the characters of a host name. `new URL` is a parameter. It
writes host names in ASCII, so `toLowerCase` changes ASCII letters only.
-/

namespace Anchr.Attachments

open Infra

/-- What the downloads read of the configuration. -/
structure AttachmentRuntimeConfig where
  allowLocalhostAttachments : Bool := false
  blossomServers : List String := []

/-- What is read of a parsed `URL`. -/
structure Url where
  protocol : String
  username : String := ""
  password : String := ""
  hostname : String

def stripBrackets (hostname : List Char) : List Char :=
  if hostname.head? = some '[' ∧ hostname.getLast? = some ']' then hostname.tail.dropLast
  else hostname

/-- The text starts with these parts, and a separator after each. -/
def leads (c : Char) (parts : List String) (text : List Char) : Bool :=
  (parts.flatMap fun part => part.toList ++ [c]).isPrefixOf text

/-- The alternatives of `(1[6-9]|2\d|3[01])`. -/
def secondOctets : List String :=
  ["16", "17", "18", "19", "20", "21", "22", "23", "24", "25", "26", "27", "28", "29", "30", "31"]

/-- `PRIVATE_IPV4_PATTERNS`: the octets that each of them starts with. -/
def privateIpv4Patterns : List (List String) :=
  [["127"], ["10"]] ++ secondOctets.map (fun octet => ["172", octet]) ++
    [["192", "168"], ["169", "254"], ["0"]]

def isPrivateIpv4 (ipv4 : List Char) : Bool := privateIpv4Patterns.any (leads '.' · ipv4)

/-- `\d{1,3}`. -/
def isShortNumber (l : List Char) : Bool := !l.isEmpty && l.length ≤ 3 && l.all Char.isDigit

def isLowerHex (c : Char) : Bool := c.isDigit || ('a' ≤ c && c ≤ 'f')

/-- `[0-9a-f]{1,4}`. -/
def isShortHex (l : List Char) : Bool := !l.isEmpty && l.length ≤ 4 && l.all isLowerHex

/-- What the dotted form of a mapped address has after `::ffff:`. -/
def v4DottedMapped (lower : List Char) : Option (List Char) :=
  match lower.splitOn ':' with
  | [[], [], ['f', 'f', 'f', 'f'], ipv4] =>
    let octets := ipv4.splitOn '.'
    if octets.length = 4 && octets.all isShortNumber then some ipv4 else none
  | _ => none

/-- The numbers that the hexadecimal form of a mapped address has after `::ffff:`. -/
def v4HexMapped (lower : List Char) : Option (Nat × Nat) :=
  match lower.splitOn ':' with
  | [[], [], ['f', 'f', 'f', 'f'], hi, lo] =>
    if isShortHex hi && isShortHex lo then some (hexNumber hi, hexNumber lo) else none
  | _ => none

def dotted (octets : List Nat) : List Char := ['.'].intercalate (octets.map natChars)

def isPrivateIp (hostname : List Char) : Bool :=
  let raw := stripBrackets hostname
  let lower := raw.map Char.toLower
  if raw = "::1".toList then true
  else if leads ':' ["fe80"] lower then true
  else if leads ':' ["fc00"] lower || leads ':' ["fd00"] lower then true
  else
    match v4DottedMapped lower with
    | some ipv4 => isPrivateIpv4 ipv4
    | none =>
      match v4HexMapped lower with
      | some (hi, lo) =>
        isPrivateIpv4 (dotted [hi / 256 % 256, hi % 256, lo / 256 % 256, lo % 256])
      | none => isPrivateIpv4 raw

/-- `^127\.\d{1,3}\.\d{1,3}\.\d{1,3}$`. -/
def isLoopbackIpv4 (l : List Char) : Bool :=
  match l.splitOn '.' with
  | [['1', '2', '7'], b, c, d] => isShortNumber b && isShortNumber c && isShortNumber d
  | _ => false

def isLoopback (hostname : List Char) : Bool :=
  let raw := (stripBrackets hostname).map Char.toLower
  if raw = "localhost".toList || raw = "::1".toList then true
  else if isLoopbackIpv4 raw then true
  else
    match raw.splitOn ':' with
    | [[], [], ['f', 'f', 'f', 'f'], ipv4] => isLoopbackIpv4 ipv4
    | [[], [], ['f', 'f', 'f', 'f'], ['7', 'f', x, y], lo] =>
      isLowerHex x && isLowerHex y && isShortHex lo
    | _ => false

/-- `null` for a URL that is valid, otherwise the message. -/
def validateAttachmentUri (parseUrl : String → Option Url) (config : AttachmentRuntimeConfig)
    (uri : String) : Option String :=
  match parseUrl uri with
  | none => some "Invalid URL"
  | some parsed =>
    if parsed.username ≠ "" || parsed.password ≠ "" then
      some "URLs with embedded credentials are not allowed"
    else
      let loopback := isLoopback parsed.hostname.toList
      if loopback && !config.allowLocalhostAttachments then
        some ("URLs pointing to localhost are not allowed " ++
          "(set ANCHR_ALLOW_LOCALHOST_ATTACHMENTS=1 for local development)")
      else if parsed.protocol = "http:" && !loopback then some "Only HTTPS URLs are allowed"
      else if parsed.protocol ≠ "https:" && parsed.protocol ≠ "http:" then
        some "Only HTTPS URLs are allowed"
      else if !loopback && isPrivateIp parsed.hostname.toList then
        some "URLs pointing to private/internal networks are not allowed"
      else none

end Anchr.Attachments
